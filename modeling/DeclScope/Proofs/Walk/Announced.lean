import DeclScope.Proofs.Observer.Schedule
import DeclScope.Proofs.Scope.Classes
import DeclScope.Proofs.Walk.Toplevel

/-!
# The classes that the top-level walk announces

Between the classes of a tree and the cursors of the walk stand the items of each scope, which look
through conditional groups and split declarations, and the walk itself, which goes into namespaces
only.  The expander picks the classes with a body.  What it picks are exactly the class definitions
in the outermost scopes, in the order in which they are listed.

The induction is along that list: each way to add a class to it is a way in which the walk comes by,
and no other cursor of the walk is announced.
-/

namespace DeclScope

/-- The cursor at a node of a unit. -/
def TranslationUnit.cursorAt (unit : TranslationUnit) (node : Node) : Cursor := ⟨⟨node, none⟩, unit⟩

/-- The items of a conditional group are those of its contents. -/
theorem Node.items_of_group {node : Node} {form : ConditionalForm}
    (isGroup : node.kind = .conditional form) : node.items = node.contents := by
  rw [items, isGroup, contents]
  simp

namespace Cursor

/-- Siblings one after the other are walked one after the other. -/
theorem scopes_append (cursors more : List Cursor) (level : Nat) :
    scopes (cursors ++ more) level = scopes cursors level ++ scopes more level := by
  induction cursors with
  | nil => rw [List.nil_append, scopes.eq_1, List.nil_append]
  | cons cursor rest inductionHypothesis =>
    rw [List.cons_append, scopes, scopes, inductionHypothesis, List.cons_append, List.append_assoc]

/-- The cursors that make an expander announce a class, in the walk from several items on. -/
def announced (unit : TranslationUnit) (items : List Item) (level : Nat) : List Cursor :=
  ((scopes (items.map (⟨·, unit⟩)) level).map (·.1)).filter Expander.announces

/-- Of no items nothing is announced. -/
theorem announced_nil (unit : TranslationUnit) (level : Nat) : announced unit [] level = [] := by
  rw [announced, List.map_nil, scopes.eq_1]
  rfl

/-- Items one after the other are announced one after the other. -/
theorem announced_append (unit : TranslationUnit) (items more : List Item) (level : Nat) :
    announced unit (items ++ more) level =
      announced unit items level ++ announced unit more level := by
  rw [announced, List.map_append, scopes_append, List.map_append, List.filter_append]
  rfl

/-- The items of several nodes are announced node by node. -/
theorem announced_flatMap {α : Type} (unit : TranslationUnit) (nodes : List α)
    (items : α → List Item) (level : Nat) :
    announced unit (nodes.flatMap items) level =
      nodes.flatMap fun node => announced unit (items node) level := by
  induction nodes with
  | nil => exact announced_nil unit level
  | cons node rest inductionHypothesis =>
    rw [List.flatMap_cons, List.flatMap_cons, announced_append, inductionHypothesis]

/-- An expander announces classes only. -/
theorem kind_of_announces {cursor : Cursor} (announces : Expander.announces cursor = true) :
    cursor.kind = .classDecl := by
  have admitted := (Bool.and_eq_true_iff.mp announces).1
  exact List.mem_singleton.mp (List.contains_iff_mem.mp admitted)

/-- An expander announces a whole node exactly if it is a class with a body. -/
theorem announces_cursorAt (unit : TranslationUnit) (node : Node) :
    Expander.announces (unit.cursorAt node) = node.definesClass := by
  have isClass : (unit.cursorAt node).kind = .classDecl ↔ node.kind = .record .classKey :=
    (Item.kindOfNode_scope node).2.2
  rw [Bool.eq_iff_iff, Node.definesClass, Bool.and_eq_true_iff, beq_iff_eq, ← isClass]
  refine ⟨?_, ?_⟩
  · intro announces
    have kind := kind_of_announces announces
    have defines := (Bool.and_eq_true_iff.mp announces).2
    rw [isDefinition, kind] at defines
    exact ⟨kind, defines⟩
  · rintro ⟨kind, body⟩
    rw [Expander.announces, isDefinition, kind]
    exact body

/-- What the walk announces of one item: a scope is gone into and is no class itself, and anything
else counts if it is announced. -/
theorem announced_item (unit : TranslationUnit) (item : Item) (level : Nat) :
    announced unit [item] level =
      if item.kind.isExpanded then announced unit item.children (level + 1)
      else [(⟨item, unit⟩ : Cursor)].filter Expander.announces := by
  have step : scopes [⟨item, unit⟩] level = (⟨item, unit⟩, level) ::
      if item.kind.isExpanded then
        (⟨item, unit⟩, level + 1) :: scopes (children ⟨item, unit⟩) (level + 1)
      else [] := by
    rw [scopes, scopes.eq_1, List.append_nil]
    rfl
  rw [announced, List.map_singleton, step]
  by_cases expanded : item.kind.isExpanded = true
  · have unannounced : ¬ Expander.announces ⟨item, unit⟩ = true := by
      intro announces
      have isClass : item.kind = .classDecl := kind_of_announces announces
      rw [isClass] at expanded
      cases expanded
    rw [if_pos expanded, if_pos expanded, List.map_cons, List.map_cons,
      List.filter_cons_of_neg unannounced, List.filter_cons_of_neg unannounced]
    rfl
  · rw [if_neg expanded, if_neg expanded]
    rfl

/-- The walk announces nothing that is seen through a declarator. -/
theorem announced_declarators (unit : TranslationUnit) (node : Node) (declarators : List Node)
    (level : Nat) : announced unit (declarators.map (⟨node, some ·⟩)) level = [] := by
  rw [← List.flatMap_pure_eq_map, announced_flatMap, List.flatMap_eq_nil_iff]
  intro declarator _
  have kinds := Item.kind_scope ⟨node, some declarator⟩
  have inner : Item.kind ⟨node, some declarator⟩ ≠ .translationUnit :=
    fun isUnit => nomatch (kinds.1.mp isUnit).1
  have closed : ¬ (Item.kind ⟨node, some declarator⟩).isExpanded = true := by
    rw [isExpanded_iff inner]
    exact fun isNamespace => nomatch (kinds.2.1.mp isNamespace).1
  have unannounced : ¬ Expander.announces ⟨⟨node, some declarator⟩, unit⟩ = true :=
    fun announces => nomatch (kinds.2.2.mp (kind_of_announces announces)).1
  show announced unit [⟨node, some declarator⟩] level = []
  rw [announced_item, if_neg closed, List.filter_cons_of_neg unannounced]
  rfl

/-- What the walk announces of a whole node: a namespace is gone into, and of anything else only a
class with a body counts. -/
theorem announced_node (unit : TranslationUnit) {node : Node} (level : Nat)
    (inner : node.kind ≠ .translationUnit) :
    announced unit [⟨node, none⟩] level =
      if node.kind = .namespaceDefinition then
        announced unit (Item.childrenOfNode node) (level + 1)
      else ([node].filter Node.definesClass).map unit.cursorAt := by
  have kinds := Item.kindOfNode_scope node
  have expanded_iff : (Item.kind ⟨node, none⟩).isExpanded = true ↔
      node.kind = .namespaceDefinition :=
    (isExpanded_iff fun isUnit => inner (kinds.1.mp isUnit)).trans kinds.2.1
  rw [announced_item]
  by_cases isNamespace : node.kind = .namespaceDefinition
  · rw [if_pos (expanded_iff.mpr isNamespace), if_pos isNamespace]
    rfl
  · rw [if_neg (mt expanded_iff.mp isNamespace), if_neg isNamespace]
    have same : Expander.announces ∘ unit.cursorAt = Node.definesClass :=
      funext (announces_cursorAt unit)
    rw [← same, ← List.filter_map]
    rfl

/-- What the walk announces of a declaration: the class with a body that is its type.  Such a class
is always in front of the declarators, and another type there is no such class. -/
theorem announced_declared (unit : TranslationUnit) {node : Node} (level : Nat)
    (inner : ∀ below, node.Contains below → below.kind ≠ .translationUnit) :
    announced unit node.declared level =
      ((node.childIn? .type).toList.filter Node.definesClass).map unit.cursorAt := by
  rw [Node.declared, announced_append, announced_declarators, List.append_nil]
  cases isType : node.childIn? .type with
  | none =>
    have absent : node.hoisted? = none := by rw [Node.hoisted?, isType]; rfl
    rw [absent]
    exact announced_nil unit level
  | some specifier =>
    cases hoisted : node.hoisted? with
    | none =>
      have undefined : ¬ specifier.definesClass = true := by
        intro defines
        obtain ⟨isClass, hasBody⟩ := Bool.and_eq_true_iff.mp defines
        have isFront : node.hoisted? = some specifier := by
          rw [Node.hoisted?, isType, Option.filter_some, beq_iff_eq.mp isClass, hasBody]
          rfl
        cases hoisted.symm.trans isFront
      rw [Option.toList_some, List.filter_cons_of_neg undefined]
      exact announced_nil unit level
    | some other =>
      obtain ⟨same, isSpecifier⟩ := Option.filter_eq_some_iff.mp hoisted
      cases isType.symm.trans same
      have outside : ¬ specifier.kind = .namespaceDefinition := by
        intro isNamespace
        simp [isNamespace, Kind.isScopedSpecifier] at isSpecifier
      have within : node.Contains specifier := .single (Node.mem_children_of_childIn? isType)
      exact (announced_node unit level (inner specifier within)).trans (if_neg outside)

/-- The walk goes into a namespace. -/
theorem announced_namespace (unit : TranslationUnit) {node : Node} (level : Nat)
    (isNamespace : node.kind = .namespaceDefinition) :
    announced unit node.items level = announced unit (Item.childrenOfNode node) (level + 1) := by
  have inner : node.kind ≠ .translationUnit := by rw [isNamespace]; exact Kind.noConfusion
  have whole : node.items = [⟨node, none⟩] := by simp only [Node.items, isNamespace]
  rw [whole, announced_node unit level inner, if_pos isNamespace]

/-- The walk announces the classes of a scope if it does so for each of its children. -/
theorem announced_contents {unit : TranslationUnit} {scope : Node} {level : Nat}
    (each : ∀ child ∈ scope.unguarded,
      announced unit child.items level = child.outerClasses.map unit.cursorAt) :
    announced unit scope.contents level = scope.classesIn.map unit.cursorAt := by
  rw [Node.contents, announced_flatMap, Node.classesIn, List.map_flatMap]
  exact List.flatMap_congr each

/-- The walk announces the classes that a node adds to the outermost scopes. -/
theorem announced_items (unit : TranslationUnit) {node : Node} (level : Nat)
    (inner : ∀ below, node.Contains below → below.kind ≠ .translationUnit) :
    announced unit node.items level = node.outerClasses.map unit.cursorAt := by
  fun_induction Node.outerClasses node generalizing level with
  | case1 node isClass =>
    have outside : ¬ node.kind = .namespaceDefinition := by rw [isClass]; exact Kind.noConfusion
    rw [Node.items, isClass]
    exact (announced_node unit level (inner node .refl)).trans (if_neg outside)
  | case2 node isKind | case3 node isKind | case4 node isKind =>
    rw [Node.items, isKind]
    exact announced_declared unit level inner
  | case5 node _ isGroup inductionHypothesis =>
    rw [Node.items_of_group isGroup, Node.flatMap_attach_unguarded]
    apply announced_contents
    intro child inside
    apply inductionHypothesis child inside
    intro below contained
    exact inner below (.head (Node.mem_children_of_mem_unguarded inside) contained)
  | case6 node isNamespace body isBody isList inductionHypothesis =>
    have through : Item.childrenOfNode node = body.contents := by
      simp only [Item.childrenOfNode, isNamespace, isBody, if_pos isList]
    rw [announced_namespace unit level isNamespace, through, Node.flatMap_attach_unguarded]
    apply announced_contents
    intro child inside
    apply inductionHypothesis child inside
    intro below contained
    refine inner below (.head (Node.mem_children_of_childIn? isBody) ?_)
    exact .head (Node.mem_children_of_mem_unguarded inside) contained
  | case7 node isNamespace body isBody isOther inductionHypothesis =>
    have through : Item.childrenOfNode node = body.items := by
      simp only [Item.childrenOfNode, isNamespace, isBody, if_neg isOther]
    rw [announced_namespace unit level isNamespace, through]
    apply inductionHypothesis
    intro below contained
    exact inner below (.head (Node.mem_children_of_childIn? isBody) contained)
  | case8 node isNamespace noBody =>
    have empty : Item.childrenOfNode node = [] := by
      simp only [Item.childrenOfNode, isNamespace, noBody]
    rw [announced_namespace unit level isNamespace, empty]
    exact announced_nil unit (level + 1)
  | case9 node notClass notDeclaration notMember notType notGroup notNamespace =>
    have undefined : ¬ node.definesClass = true := by
      intro defines
      exact notClass (beq_iff_eq.mp (Bool.and_eq_true_iff.mp defines).1)
    rw [Node.items]
    split
    · exact announced_nil unit level
    · contradiction
    · contradiction
    · contradiction
    · rename_i form isGroup
      exact absurd isGroup (notGroup form)
    · rw [announced_node unit level (inner node .refl), if_neg notNamespace,
        List.filter_cons_of_neg undefined]
      rfl

/-- The top-level walk announces the class definitions in the outermost scopes. -/
theorem filter_toplevelWalk {unit : TranslationUnit} (sole : unit.tree.HasSoleUnit) :
    (unit.cursor.toplevelWalk.map (·.1)).filter Expander.announces =
      unit.root.classesIn.map unit.cursorAt := by
  have isUnit : unit.root.kind = .translationUnit := sole.1
  have unannounced : ¬ Expander.announces unit.cursor = true := by
    intro announces
    have isClass := (Item.kind_scope unit.cursor.toItem).2.2.mp (kind_of_announces announces)
    cases isUnit.symm.trans isClass.2
  have below : unit.cursor.children = unit.root.contents.map (⟨·, unit⟩) := by
    have whole : Item.childrenOfNode unit.root = unit.root.contents := by
      simp only [Item.childrenOfNode, isUnit]
    show (Item.childrenOfNode unit.root).map _ = _
    rw [whole]
    rfl
  rw [toplevelWalk_eq, List.map_cons, List.filter_cons_of_neg unannounced, below]
  apply announced_contents
  intro child inside
  apply announced_items
  intro node contained
  apply Node.Encloses.kind_ne_of_soleUnit sole
  exact .head' (Node.mem_children_of_mem_unguarded inside) contained

end Cursor

end DeclScope
