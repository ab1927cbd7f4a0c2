import DeclScope.Proofs.Scope.Containment
import DeclScope.Proofs.Walk.Outline

/-!
# The top-level walk inside the child walk

The two walks keep different stacks and number their levels by different rules.  Still the
top-level walk is a part of the child walk.  Take from the child walk the cursors that are reached
through namespaces only, put behind each namespace the same namespace one level deeper, and put the
root in front: that is the top-level walk, with the same order and the same levels.

The walk would go into a nested translation unit as well.  The comparison is therefore made for
trees in which the root is the only one, as in every tree that a grammar builds.
-/

namespace DeclScope

namespace Cursor

/-- An outline in which each entry carries the cursors above it, from the outside in. -/
def traced (ancestors : List Cursor) : List Cursor → Nat → List (Visit × List Cursor)
  | [], _ => []
  | cursor :: rest, level =>
    ((cursor, level), ancestors) ::
      (traced (ancestors ++ [cursor]) cursor.children (level + 1) ++ traced ancestors rest level)
termination_by cursors => weightAll cursors
decreasing_by
  all_goals rw [weightAll_cons]; have := cursor.weight_eq; omega

/-- Whether an entry is reached through namespaces only. -/
def inNamespaces (entry : Visit × List Cursor) : Bool :=
  entry.2.all (·.kind == .namespaceScope)

/-- A visit and, if it is to a namespace, the same namespace one level deeper. -/
def repeated (visit : Visit) : List Visit :=
  if visit.1.kind = .namespaceScope then [visit, (visit.1, visit.2 + 1)] else [visit]

/-- Visits without the one that follows each namespace. -/
def withoutRepeats : List Visit → List Visit
  | [] => []
  | [visit] => [visit]
  | visit :: next :: rest =>
    if visit.1.kind = .namespaceScope then visit :: withoutRepeats rest
    else visit :: withoutRepeats (next :: rest)

/-- Without the ancestors, a traced outline is the outline. -/
theorem map_traced (ancestors cursors : List Cursor) (level : Nat) :
    (traced ancestors cursors level).map (·.1) = outline cursors level := by
  fun_induction traced ancestors cursors level with
  | case1 => rw [outline]; rfl
  | case2 ancestors cursor rest level below later =>
    rw [outline, List.map_cons, List.map_append, below, later]

/-- The ancestors that a traced outline starts with stay with all its entries. -/
theorem ancestors_subset {ancestors cursors : List Cursor} {level : Nat}
    {entry : Visit × List Cursor} (mem : entry ∈ traced ancestors cursors level) :
    ancestors ⊆ entry.2 := by
  fun_induction traced ancestors cursors level with
  | case1 => cases mem
  | case2 ancestors cursor rest level below later =>
    rcases List.mem_cons.mp mem with rfl | deeper
    · exact List.Subset.refl ancestors
    · rcases List.mem_append.mp deeper with inside | behind
      · exact List.Subset.trans (List.subset_append_left ancestors [cursor]) (below inside)
      · exact later behind

/-- Nothing below a cursor that is no namespace is reached through namespaces only. -/
theorem filter_traced_eq_nil {cursor : Cursor} (other : cursor.kind ≠ .namespaceScope)
    (ancestors cursors : List Cursor) (level : Nat) :
    (traced (ancestors ++ [cursor]) cursors level).filter inNamespaces = [] := by
  rw [List.filter_eq_nil_iff]
  intro entry inside passed
  have above : cursor ∈ entry.2 :=
    ancestors_subset inside (List.mem_append_right ancestors List.mem_cons_self)
  exact other (beq_iff_eq.mp (List.all_eq_true.mp passed cursor above))

/-- Outside translation units, the walk goes exactly into the namespaces. -/
theorem isExpanded_iff {kind : CursorKind} (inner : kind ≠ .translationUnit) :
    kind.isExpanded = true ↔ kind = .namespaceScope := by
  cases kind <;> simp_all [CursorKind.isExpanded]

/-- The scopes from several siblings on are the entries of their outline that are reached through
namespaces only, each namespace being repeated one level deeper.

A namespace is kept and repeated, and its own entries come with one more namespace above them.  Any
other cursor is kept, and everything below it is dropped on both sides. -/
theorem scopes_eq_flatMap {ancestors cursors : List Cursor} {level : Nat}
    (above : ∀ cursor ∈ ancestors, cursor.kind = .namespaceScope)
    (inner : ∀ visit ∈ outline cursors level, visit.1.kind ≠ .translationUnit) :
    scopes cursors level =
      (((traced ancestors cursors level).filter inNamespaces).map (·.1)).flatMap repeated := by
  fun_induction traced ancestors cursors level with
  | case1 => rw [scopes]; rfl
  | case2 ancestors cursor rest level below later =>
    rw [outline] at inner
    have first : cursor.kind ≠ .translationUnit := inner (cursor, level) List.mem_cons_self
    have behind : scopes rest level = (((traced ancestors rest level).filter
        inNamespaces).map (·.1)).flatMap repeated := by
      apply later above
      intro visit mem
      exact inner visit (List.mem_cons_of_mem _ (List.mem_append_right _ mem))
    have kept : inNamespaces ((cursor, level), ancestors) = true := by
      rw [inNamespaces, List.all_eq_true]
      intro ancestor mem
      exact beq_iff_eq.mpr (above ancestor mem)
    rw [scopes, behind, List.filter_cons_of_pos kept, List.filter_append, List.map_cons,
      List.map_append, List.flatMap_cons, List.flatMap_append]
    by_cases scope : cursor.kind = .namespaceScope
    · have inside : scopes cursor.children (level + 1) =
          (((traced (ancestors ++ [cursor]) cursor.children (level + 1)).filter
            inNamespaces).map (·.1)).flatMap repeated := by
        apply below
        · intro ancestor mem
          rcases List.mem_append.mp mem with earlier | last
          · exact above ancestor earlier
          · rw [List.mem_singleton.mp last]
            exact scope
        · intro visit mem
          exact inner visit (List.mem_cons_of_mem _ (List.mem_append_left _ mem))
      rw [if_pos ((isExpanded_iff first).mpr scope), inside, repeated, if_pos scope]
      rfl
    · rw [if_neg (fun expanded => scope ((isExpanded_iff first).mp expanded)),
        filter_traced_eq_nil scope, repeated, if_neg scope]
      rfl

/-- Repeating the namespaces and dropping the repeats changes nothing. -/
theorem withoutRepeats_flatMap (visits : List Visit) :
    withoutRepeats (visits.flatMap repeated) = visits := by
  induction visits with
  | nil => rfl
  | cons visit rest inductionHypothesis =>
    rw [List.flatMap_cons]
    by_cases scope : visit.1.kind = .namespaceScope
    · rw [repeated, if_pos scope]
      simp only [List.cons_append, List.nil_append, withoutRepeats, if_pos scope]
      rw [inductionHypothesis]
    · rw [repeated, if_neg scope, List.singleton_append]
      cases behind : rest.flatMap repeated with
      | nil =>
        rw [behind] at inductionHypothesis
        rw [withoutRepeats, ← inductionHypothesis]
        rfl
      | cons next others =>
        rw [behind] at inductionHypothesis
        rw [withoutRepeats, if_neg scope, inductionHypothesis]

/-- A child of a well-formed cursor stands strictly inside its node, and is well formed. -/
theorem encloses_of_mem_children {child cursor : Cursor} (formed : cursor.toItem.WellFormed)
    (mem : child ∈ cursor.children) :
    cursor.node.Encloses child.node ∧ child.toItem.WellFormed := by
  obtain ⟨item, listed, rfl⟩ := List.mem_map.mp mem
  exact Item.encloses_of_mem_children formed listed

/-- Everything in an outline stands inside the node that its cursors stand in. -/
theorem encloses_of_mem_outline {node : Node} {cursors : List Cursor} {level : Nat}
    (inside : ∀ cursor ∈ cursors, node.Encloses cursor.node ∧ cursor.toItem.WellFormed) :
    ∀ visit ∈ outline cursors level, node.Encloses visit.1.node := by
  fun_induction outline cursors level with
  | case1 =>
    intro visit mem
    cases mem
  | case2 cursor rest level below later =>
    obtain ⟨here, formed⟩ := inside cursor List.mem_cons_self
    intro visit mem
    rcases List.mem_cons.mp mem with rfl | deeper
    · exact here
    · rcases List.mem_append.mp deeper with among | behind
      · refine below ?_ visit among
        intro child listed
        obtain ⟨enclosed, childFormed⟩ := encloses_of_mem_children formed listed
        exact ⟨here.trans enclosed, childFormed⟩
      · exact later (fun other listed => inside other (List.mem_cons_of_mem _ listed)) visit behind

/-- Below the root of a tree with a sole unit no cursor is a translation unit. -/
theorem kind_ne_of_mem_descendants {unit : TranslationUnit} (sole : unit.tree.HasSoleUnit)
    {level : Nat} {visit : Visit} (mem : visit ∈ unit.cursor.descendants level) :
    visit.1.kind ≠ .translationUnit := by
  intro isUnit
  have enclosed : unit.root.Encloses visit.1.node := by
    refine encloses_of_mem_outline ?_ visit mem
    intro child listed
    exact encloses_of_mem_children (Item.wellFormed_of_node unit.root) listed
  exact enclosed.kind_ne_of_soleUnit sole ((Item.kind_scope visit.1.toItem).1.mp isUnit).2

/-- The child walk lists the descendants of its root. -/
theorem childWalk_eq (cursor : Cursor) : cursor.childWalk = cursor.descendants 0 := by
  rw [childWalk, Walk.toList_eq_remaining, Walk.remaining, Walk.children,
    Walk.remainingStack_cons]
  exact List.append_nil _

/-- The top-level walk visits its root and then the scopes from its children on. -/
theorem toplevelWalk_eq (cursor : Cursor) :
    cursor.toplevelWalk = (cursor, 0) :: scopes cursor.children 0 := by
  rw [toplevelWalk, Walk.toList_eq_remaining]
  exact List.append_nil _

/-- In a tree with a sole unit, the top-level walk is the root followed by those entries of the
child walk that are reached through namespaces only, with the same levels and in the same order,
each namespace among them being followed at once by itself one level deeper.  Dropping the root and
these repeats leaves that part of the child walk. -/
theorem toplevelWalk_restricts_childWalk (unit : TranslationUnit)
    (sole : unit.tree.HasSoleUnit) :
    let entries := traced [] unit.cursor.children 0
    let kept := (entries.filter inNamespaces).map (·.1)
    entries.map (·.1) = unit.cursor.childWalk ∧
      unit.cursor.toplevelWalk = (unit.cursor, 0) :: kept.flatMap repeated ∧
      withoutRepeats unit.cursor.toplevelWalk.tail = kept := by
  intro entries kept
  have reached : scopes unit.cursor.children 0 = kept.flatMap repeated := by
    apply scopes_eq_flatMap
    · intro ancestor mem
      cases mem
    · intro visit mem
      exact kind_ne_of_mem_descendants sole mem
  refine ⟨?_, ?_, ?_⟩
  · rw [childWalk_eq]
    exact map_traced [] unit.cursor.children 0
  · rw [toplevelWalk_eq, reached]
  · rw [toplevelWalk_eq, List.tail_cons, reached]
    exact withoutRepeats_flatMap kept

/-- The walk of the nested unit goes into both namespaces, and repeats the empty one as well. -/
theorem toplevelWalk_nested :
    TranslationUnit.nested.tree.HasSoleUnit ∧
      TranslationUnit.nested.cursor.toplevelWalk.map (fun visit => (visit.1.kind, visit.2)) =
        [(.translationUnit, 0), (.namespaceScope, 0), (.namespaceScope, 1), (.classDecl, 1),
          (.varDecl, 1), (.classDecl, 1), (.namespaceScope, 1), (.namespaceScope, 2)] ∧
      withoutRepeats TranslationUnit.nested.cursor.toplevelWalk.tail =
        ((traced [] TranslationUnit.nested.cursor.children 0).filter inNamespaces).map (·.1) := by
  have sole : TranslationUnit.nested.tree.HasSoleUnit := by decide
  exact ⟨sole, by decide +kernel,
    (toplevelWalk_restricts_childWalk TranslationUnit.nested sole).2.2⟩

end Cursor

end DeclScope
