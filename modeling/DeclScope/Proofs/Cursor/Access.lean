import DeclScope.Cursor.Access
import DeclScope.Proofs.Cursor.Usr

/-!
# Which marker decides the access to a member

The members of a record are listed with the conditional groups in its body opened, and with the
types that declarations define in passing.  The level of a member is not read off that list.  It is
found in the tree, from the child of the body that the member belongs to: the closest marker before
that child decides.

So a marker inside a group decides nothing, not even for what follows it in the same group, although
it is listed before it.  And a type that a typedef defines in passing has no level at all, since the
way up to the body does not lead through typedefs.  Apart from these two, the level of a member is
that of the last marker that is listed before it.
-/

namespace DeclScope

/-- The unit of a class with two markers in the branches of a conditional group. -/
def TranslationUnit.branched : TranslationUnit where
  filename := "branched.cpp"
  language := .cpp
  source := .ofString ("class A \x7b\n#if X\npublic:\n int a;\n#else\nprotected:\n int b;\n" ++
    "#endif\n int c;\n\x7d;")
  arguments := []
  tree := .named .translationUnit none 0 74 [
    .named (.record .classKey) none 0 73 [
      .token "class" 0,
      .named (.name .type) (some .name) 6 7 [],
      .named .memberList (some .body) 8 73 [
        .token "\x7b" 8,
        .named (.conditional .ifTrue) none 10 63 [
          .token "#if" 10,
          .named (.name .plain) (some .condition) 14 15 [],
          .token "\n" 15,
          .named .accessMarker none 16 22 [.token "public" 16],
          .token ":" 22,
          .named .memberDeclaration none 25 31 [
            .named .primitiveType (some .type) 25 28 [],
            .named (.name .field) (some .declarator) 29 30 [],
            .token ";" 30],
          .named (.conditional .otherwise) none 32 56 [
            .token "#else" 32,
            .named .accessMarker none 38 47 [.token "protected" 38],
            .token ":" 47,
            .named .memberDeclaration none 50 56 [
              .named .primitiveType (some .type) 50 53 [],
              .named (.name .field) (some .declarator) 54 55 [],
              .token ";" 55]],
          .token "#endif" 57],
        .named .memberDeclaration none 65 71 [
          .named .primitiveType (some .type) 65 68 [],
          .named (.name .field) (some .declarator) 69 70 [],
          .token ";" 70],
        .token "\x7d" 72]],
    .token ";" 73]

namespace Node

/-- Whether a node stands right inside a conditional group. -/
def isGrouped (node : Node) : Bool := node.parent?.any (·.kind.isConditional)

/-- Whether a node stands right inside a typedef. -/
def isInTypedef (node : Node) : Bool := node.parent?.any (·.kind == .typeDefinition)

/-- The body of a record is a list of members.  That no marker in it is taken for the guard of a
group holds in every tree that a grammar builds, since a list of members has no guards. -/
structure HasMembers (record body : Node) : Prop where
  found : record.childIn? .body = some body
  isList : body.kind = .memberList
  shown : ∀ child ∈ body.namedChildren, child.kind = .accessMarker → body.isGuard child = false

/-- The member that a child belongs to, by the kind of its parent. -/
theorem member?_of_mem_children {child node : Node} (mem : child ∈ node.children) :
    child.member? = match node.kind with
      | .memberList => some (child, node)
      | .declaration | .memberDeclaration | .conditional _ => node.member?
      | _ => none := by
  obtain ⟨⟨tree, index⟩, -, rfl⟩ := List.mem_map.mp mem
  show memberFrom? tree (⟨node.tree, index⟩ :: node.above) = _
  rw [memberFrom?]
  rfl

/-- The items of a node belong to the member that the node belongs to, apart from a type inside a
typedef, which belongs to none.  By induction along the groups that are opened. -/
theorem member?_of_mem_items {item : Item} {node : Node} (mem : item ∈ node.items)
    (outside : node.isInTypedef = false) :
    item.node.member? = if item.node.isInTypedef then none else node.member? := by
  fun_induction items node with
  | case1 => cases mem
  | case2 node isKind | case3 node isKind | case4 node isKind =>
    simp only [declared, List.mem_append, List.mem_map, Option.mem_toList] at mem
    rcases mem with ⟨specifier, found, rfl⟩ | ⟨declarator, inside, rfl⟩
    · have isChild := mem_children_of_hoisted? found
      rw [member?_of_mem_children isChild, isInTypedef, parent?_of_mem_children isChild]
      simp [isKind]
    · simp [outside]
  | case5 node form isGroup inductionHypothesis =>
    obtain ⟨⟨child, inside⟩, -, below⟩ := List.mem_flatMap.mp mem
    have isChild := mem_children_of_mem_unguarded inside
    have childOutside : child.isInTypedef = false := by
      rw [isInTypedef, parent?_of_mem_children isChild]
      simp [isGroup]
    rw [inductionHypothesis child inside below childOutside, member?_of_mem_children isChild,
      isGroup]
  | case6 node =>
    rw [List.mem_singleton.mp mem]
    simp [outside]

end Node

namespace Item

/-- A marker is told by the kind of its node alone. -/
theorem kindOfNode_eq_accessMarker_iff (node : Node) :
    kindOfNode node = .accessMarker ↔ node.kind = .accessMarker := by
  unfold kindOfNode
  cases node.kind with
  | record key => cases key <;> simp [RecordKey.cursorKind]
  | functionDefinition =>
    simp only [functionKind]
    split <;> simp
  | name form => cases form <;> simp
  | other text =>
    have family := kindByEnding_mem text
    simp only [List.mem_cons, List.not_mem_nil, or_false] at family
    rcases family with same | same | same <;> simp [same]
  | _ => simp

/-- A marker is seen as a whole node. -/
theorem kind_eq_accessMarker_iff (item : Item) :
    item.kind = .accessMarker ↔ item.declarator? = none ∧ item.node.kind = .accessMarker := by
  unfold kind
  cases item.declarator? with
  | none => simpa using kindOfNode_eq_accessMarker_iff item.node
  | some declarator =>
    have declares := kindOfDeclarator_mem item.node declarator
    simp only [List.mem_cons, List.not_mem_nil, or_false] at declares
    rcases declares with same | same | same | same | same <;> simp [same]

/-- Whether an item is a marker outside all groups. -/
def isOuterMarker (item : Item) : Bool := item.kind == .accessMarker && !item.node.isGrouped

end Item

namespace Node

/-- A marker among the items of a node is seen as a whole, and it is the node itself or stands in a
group. -/
theorem marker_of_mem_items {item : Item} {node : Node} (mem : item ∈ node.items)
    (isMarker : item.node.kind = .accessMarker) :
    item.declarator? = none ∧ (item.node = node ∨ item.node.isGrouped = true) := by
  fun_induction items node with
  | case1 => cases mem
  | case2 node isKind | case3 node isKind | case4 node isKind =>
    simp only [declared, List.mem_append, List.mem_map, Option.mem_toList] at mem
    rcases mem with ⟨specifier, found, rfl⟩ | ⟨declarator, inside, rfl⟩
    · have specifies := (Option.filter_eq_some_iff.mp found).2
      simp [isMarker, Kind.isScopedSpecifier] at specifies
    · simp [isKind] at isMarker
  | case5 node form isGroup inductionHypothesis =>
    obtain ⟨⟨child, inside⟩, -, below⟩ := List.mem_flatMap.mp mem
    obtain ⟨whole, same | grouped⟩ := inductionHypothesis child inside below
    · refine ⟨whole, .inr ?_⟩
      rw [same, isGrouped, parent?_of_mem_children (mem_children_of_mem_unguarded inside)]
      simp [isGroup, Kind.isConditional]
    · exact ⟨whole, .inr grouped⟩
  | case6 node =>
    cases List.mem_singleton.mp mem
    exact ⟨rfl, .inl rfl⟩

/-- The markers outside all groups among the items of a node: the node itself, if it is one. -/
theorem filter_isOuterMarker_items {node : Node} (outside : node.isGrouped = false) :
    node.items.filter Item.isOuterMarker =
      if node.kind = .accessMarker then [⟨node, none⟩] else [] := by
  split
  · rename_i isMarker
    have itself : node.items = [⟨node, none⟩] := by
      rw [items, isMarker]
    have isOuter : Item.isOuterMarker ⟨node, none⟩ = true := by
      simp [Item.isOuterMarker, Item.kind_eq_accessMarker_iff, isMarker, outside]
    rw [itself, List.filter_cons_of_pos isOuter, List.filter_nil]
  · rename_i other
    rw [List.filter_eq_nil_iff]
    intro item mem isOuter
    simp only [Item.isOuterMarker, Bool.and_eq_true, beq_iff_eq, Bool.not_eq_true',
      Item.kind_eq_accessMarker_iff] at isOuter
    obtain ⟨⟨-, isMarker⟩, notGrouped⟩ := isOuter
    obtain ⟨-, same | grouped⟩ := marker_of_mem_items mem isMarker
    · exact other (same ▸ isMarker)
    · rw [notGrouped] at grouped
      cases grouped

/-- The markers outside all groups among the items of several nodes are the markers among the
nodes. -/
theorem filter_isOuterMarker_flatMap {nodes : List Node}
    (outside : ∀ node ∈ nodes, node.isGrouped = false) :
    (nodes.flatMap items).filter Item.isOuterMarker =
      (nodes.filter (·.kind == .accessMarker)).map (⟨·, none⟩) := by
  induction nodes with
  | nil => rfl
  | cons node nodes inductionHypothesis =>
    obtain ⟨here, others⟩ := List.forall_mem_cons.mp outside
    rw [List.flatMap_cons, List.filter_append, filter_isOuterMarker_items here,
      inductionHypothesis others, List.filter_cons]
    by_cases isMarker : node.kind = .accessMarker <;> simp [isMarker]

/-- The named siblings before a child are the named ones among the children in front of it. -/
theorem namedSiblingsBefore_eq {parent child : Node} {before after : List Node}
    (split : parent.children = before ++ child :: after) :
    child.namedSiblingsBefore = (before.filter (·.label.named)).reverse := by
  have isAt : parent.children[before.length]? = some child := by simp [split]
  have same : child.parent? = some parent ∧ child.index? = some before.length := by
    simp only [children, List.getElem?_map, Option.map_eq_some_iff, List.getElem?_zipIdx] at isAt
    obtain ⟨_, ⟨tree, -, rfl⟩, rfl⟩ := isAt
    simp [parent?, index?]
  rw [namedSiblingsBefore, same.1, same.2]
  simp [split]

/-- The closest marker before a child of the body is the last marker among the listed children in
front of it. -/
theorem HasMembers.closest_marker {record body child : Node} {before after : List Node}
    (members : record.HasMembers body) (split : body.unguarded = before ++ child :: after) :
    child.namedSiblingsBefore.find? (·.kind == .accessMarker) =
      (before.filter (·.kind == .accessMarker)).getLast? := by
  rw [unguarded, namedChildren, List.filter_filter] at split
  obtain ⟨inFront, fromChild, together, isBefore, isRest⟩ := List.filter_eq_append_iff.mp split
  obtain ⟨hidden, behind, rfl, areHidden, -, -⟩ := List.filter_eq_cons_iff.mp isRest
  have isSplit : body.children = (inFront ++ hidden) ++ child :: behind := by
    rw [together, List.append_assoc]
  have isKept : before = (inFront ++ hidden).filter
      fun node => !body.isGuard node && node.label.named := by
    rw [List.filter_append, isBefore, List.filter_eq_nil_iff.mpr areHidden, List.append_nil]
  rw [namedSiblingsBefore_eq isSplit, ← List.head?_filter, List.filter_reverse, List.head?_reverse,
    isKept, List.filter_filter, List.filter_filter]
  congr 1
  apply List.filter_congr
  intro node mem
  have isChild : node ∈ body.children := by
    rw [isSplit]
    exact List.mem_append_left _ mem
  by_cases isMarker : node.kind = .accessMarker ∧ node.label.named = true
  · have notGuard := members.shown node (List.mem_filter.mpr ⟨isChild, isMarker.2⟩) isMarker.1
    simp [isMarker, notGuard]
  · grind

end Node

/-- Where a piece of a flattened list comes from. -/
theorem exists_of_flatMap_eq_append_cons {α β : Type} {pieces : α → List β} {list : List α}
    {before after : List β} {element : β}
    (split : list.flatMap pieces = before ++ element :: after) :
    ∃ front source back inside rest, list = front ++ source :: back ∧
      pieces source = inside ++ element :: rest ∧ before = front.flatMap pieces ++ inside := by
  induction list generalizing before with
  | nil => simp at split
  | cons first others inductionHypothesis =>
    rw [List.flatMap_cons] at split
    rcases List.append_eq_append_iff.mp split with ⟨later, rfl, found⟩ | ⟨rest, here, found⟩
    · obtain ⟨front, source, back, inside, rest, rfl, pieces, rfl⟩ := inductionHypothesis found
      exact ⟨first :: front, source, back, inside, rest, rfl, pieces, by simp⟩
    · cases rest with
      | nil =>
        have next : others.flatMap pieces = [] ++ element :: after := found.symm
        obtain ⟨front, source, back, inside, rest, rfl, piece, empty⟩ := inductionHypothesis next
        refine ⟨first :: front, source, back, inside, rest, rfl, piece, ?_⟩
        rw [List.flatMap_cons, here, List.append_nil, List.append_assoc, ← empty, List.append_nil]
      | cons head rest =>
        obtain ⟨rfl, -⟩ := List.cons.inj found
        exact ⟨[], first, others, before, rest, rfl, here, rfl⟩

/-- An item of a body that is no marker comes from a child of the body.  The markers outside all
groups that are listed before the item are the markers among the children before that child. -/
theorem Node.exists_of_contents_split {body : Node} {item : Item} {before after : List Item}
    (isList : body.kind = .memberList) (split : body.contents = before ++ item :: after)
    (notMarker : item.kind ≠ .accessMarker) :
    ∃ front child back, body.unguarded = front ++ child :: back ∧ item ∈ child.items ∧
      before.filter Item.isOuterMarker =
        (front.filter (·.kind == .accessMarker)).map (⟨·, none⟩) := by
  obtain ⟨front, child, back, inside, rest, children, ofChild, rfl⟩ :=
    exists_of_flatMap_eq_append_cons split
  have isItem : item ∈ child.items := by simp [ofChild]
  have ungrouped : ∀ node ∈ body.unguarded, node.isGrouped = false := by
    intro node mem
    rw [isGrouped, parent?_of_mem_children (mem_children_of_mem_unguarded mem)]
    simp [isList, Kind.isConditional]
  rw [children, List.forall_mem_append, List.forall_mem_cons] at ungrouped
  have other : child.kind ≠ .accessMarker := by
    intro isMarker
    rw [items, isMarker] at isItem
    apply notMarker
    rw [List.mem_singleton.mp isItem]
    exact (Item.kind_eq_accessMarker_iff _).mpr ⟨rfl, isMarker⟩
  -- The items of the child before the given one may hold markers, but only in groups.
  have noneInside : inside.filter Item.isOuterMarker = [] := by
    have noneOfChild := filter_isOuterMarker_items ungrouped.2.1
    rw [if_neg other, ofChild, List.filter_append, List.append_eq_nil_iff] at noneOfChild
    exact noneOfChild.1
  refine ⟨front, child, back, children, isItem, ?_⟩
  rw [List.filter_append, filter_isOuterMarker_flatMap ungrouped.1, noneInside, List.append_nil]

namespace Item

/-- A record lists its bases and then the contents of its body. -/
theorem childrenOfNode_of_record {record body : Node} {key : RecordKey}
    (isRecord : record.kind = .record key) (found : record.childIn? .body = some body) :
    ∃ bases : List Item, childrenOfNode record = bases ++ body.contents ∧
      ∀ base ∈ bases, base.kind = .baseSpecifier := by
  refine ⟨(record.namedChildren.filter (·.kind == .baseClause)).map (⟨·, none⟩), ?_, ?_⟩
  · simp only [childrenOfNode, isRecord, found, Option.map_some, Option.getD_some]
  · intro base mem
    obtain ⟨node, isBase, rfl⟩ := List.mem_map.mp mem
    show kindOfNode node = .baseSpecifier
    rw [kindOfNode, beq_iff_eq.mp (List.mem_filter.mp isBase).2]

/-- An item of a record that is no base is listed in the body, with the same markers before it. -/
theorem exists_of_record_split {record body : Node} {key : RecordKey} {item : Item}
    {before after : List Item} (isRecord : record.kind = .record key)
    (found : record.childIn? .body = some body)
    (split : childrenOfNode record = before ++ item :: after)
    (notBase : item.kind ≠ .baseSpecifier) :
    ∃ earlier, body.contents = earlier ++ item :: after ∧
      before.filter isOuterMarker = earlier.filter isOuterMarker := by
  obtain ⟨bases, isSplit, areBases⟩ := childrenOfNode_of_record isRecord found
  have noMarkers : bases.filter isOuterMarker = [] := by
    rw [List.filter_eq_nil_iff]
    intro base mem
    simp [isOuterMarker, areBases base mem]
  rw [isSplit] at split
  rcases List.append_eq_append_iff.mp split with ⟨earlier, rfl, rest⟩ | ⟨others, rfl, rest⟩
  · exact ⟨earlier, rest, by rw [List.filter_append, noMarkers, List.nil_append]⟩
  · cases others with
    | nil =>
      rw [List.append_nil] at noMarkers
      exact ⟨[], rest.symm, noMarkers⟩
    | cons other others =>
      obtain ⟨rfl, -⟩ := List.cons.inj rest
      exact absurd (areBases item (by simp)) notBase

end Item

namespace Cursor

/-- The level behind markers: that of the last one, or the initial level of the record if there is
none. -/
def levelAfter (record : Cursor) (markers : List Cursor) : Option AccessLevel :=
  match markers.getLast? with
  | some marker => marker.access?
  | none => some (.initial record.node)

/-- Behind markers that name levels there is a level. -/
theorem levelAfter_isSome {record : Cursor} {markers : List Cursor}
    (named : ∀ marker ∈ markers, marker.access?.isSome = true) :
    (record.levelAfter markers).isSome = true := by
  unfold levelAfter
  split
  · rename_i marker last
    exact named marker (List.mem_of_getLast? last)
  · rfl

/-- The level of a marker is the one it names. -/
theorem access?_of_marker {cursor : Cursor} (isMarker : cursor.node.kind = .accessMarker) :
    cursor.access? = AccessLevel.ofKeyword? (cursor.unit.text cursor.node) := by
  rw [access?, if_pos isMarker]

/-- A member that belongs to a child of the body has the level behind the markers before that
child. -/
theorem access?_of_member? {record : Cursor} {item : Item} {body child : Node}
    {front back : List Node} (members : record.node.HasMembers body)
    (split : body.unguarded = front ++ child :: back) (notMarker : item.node.kind ≠ .accessMarker)
    (belongs : item.node.member? = some (child, body)) :
    access? ⟨item, record.unit⟩ = record.levelAfter
      ((front.filter (·.kind == .accessMarker)).map (⟨⟨·, none⟩, record.unit⟩)) := by
  rw [access?, if_neg notMarker, belongs, Option.bind_some]
  dsimp only
  rw [members.closest_marker split, levelAfter, List.getLast?_map]
  cases last : (front.filter (·.kind == .accessMarker)).getLast? with
  | none =>
    have inRecord := Node.parent?_of_mem_children (Node.mem_children_of_childIn? members.found)
    rw [inRecord]
    rfl
  | some marker =>
    have isMarker : marker.kind = .accessMarker :=
      beq_iff_eq.mp (List.mem_filter.mp (List.mem_of_getLast? last)).2
    exact (@access?_of_marker ⟨⟨marker, none⟩, record.unit⟩ isMarker).symm

/-- A member of a record, which is no base and no marker, has the level behind the markers outside
all groups that are listed before it; but a type inside a typedef has none. -/
theorem access?_of_listed {record member : Cursor} {body : Node} {before after : List Cursor}
    (isRecord : record.kind.isRecord = true) (members : record.node.HasMembers body)
    (listed : record.children = before ++ member :: after)
    (notBase : member.kind ≠ .baseSpecifier) (notMarker : member.kind ≠ .accessMarker) :
    member.access? = if member.node.isInTypedef then none else
      record.levelAfter (before.filter (·.toItem.isOuterMarker)) := by
  obtain ⟨whole, sameKind⟩ := Item.kind_specifier (.inl isRecord)
  obtain ⟨key, isNode⟩ := (Item.kindOfNode_specifier record.node).1 (sameKind ▸ isRecord)
  rw [children, Item.children, whole] at listed
  obtain ⟨earlierItems, laterItems, split, rfl, later⟩ := List.map_eq_append_iff.mp listed
  obtain ⟨item, rest, rfl, rfl, -⟩ := List.map_eq_cons_iff.mp later
  obtain ⟨earlier, inBody, sameMarkers⟩ :=
    Item.exists_of_record_split isNode members.found split notBase
  obtain ⟨front, child, back, isSplit, isItem, outerMarkers⟩ :=
    Node.exists_of_contents_split members.isList inBody notMarker
  have isChild : child ∈ body.children :=
    Node.mem_children_of_mem_unguarded (by simp [isSplit])
  have outside : child.isInTypedef = false := by
    rw [Node.isInTypedef, Node.parent?_of_mem_children isChild]
    simp [members.isList]
  have belongs := Node.member?_of_mem_items isItem outside
  rw [Node.member?_of_mem_children isChild, members.isList] at belongs
  have noMarker : item.node.kind ≠ .accessMarker := by
    intro isMarker
    have whole := (Node.marker_of_mem_items isItem isMarker).1
    exact notMarker (item.kind_eq_accessMarker_iff.mpr ⟨whole, isMarker⟩)
  cases inTypedef : item.node.isInTypedef with
  | true =>
    rw [inTypedef, if_pos rfl] at belongs
    rw [access?, if_neg noMarker, belongs, if_pos rfl]
    rfl
  | false =>
    rw [inTypedef] at belongs
    rw [access?_of_member? members isSplit noMarker belongs, List.filter_map]
    show _ = record.levelAfter ((earlierItems.filter Item.isOuterMarker).map (⟨·, record.unit⟩))
    rw [sameMarkers, outerMarkers, List.map_map]
    rfl

/-- Let a member, which is no base and no marker, be listed among the children of a record.  It has
the level of the last marker listed before it that is outside all conditional groups, or the initial
level of the record; but a type inside a typedef has none.  So it has the level of the last marker
listed before it, in groups or not, exactly when it is no such type and the markers in groups make
no difference to the level. -/
theorem access_of_member {record member : Cursor} {body : Node} {before after : List Cursor}
    (isRecord : record.kind.isRecord = true) (members : record.node.HasMembers body)
    (listed : record.children = before ++ member :: after)
    (notBase : member.kind ≠ .baseSpecifier) (notMarker : member.kind ≠ .accessMarker)
    (spelled : ∀ marker ∈ before, marker.kind = .accessMarker → marker.access?.isSome = true) :
    let markers := before.filter (·.kind == .accessMarker)
    let outer := markers.filter (!·.node.isGrouped)
    (member.access? = if member.node.isInTypedef then none else record.levelAfter outer) ∧
      (member.access? = record.levelAfter markers ↔
        member.node.isInTypedef = false ∧ record.levelAfter outer = record.levelAfter markers) := by
  intro markers outer
  have isOuter : outer = before.filter (·.toItem.isOuterMarker) := by
    show (before.filter (·.kind == .accessMarker)).filter (!·.node.isGrouped) = _
    rw [List.filter_filter]
    apply List.filter_congr
    intro cursor _
    exact Bool.and_comm _ _
  have level := access?_of_listed isRecord members listed notBase notMarker
  rw [← isOuter] at level
  refine ⟨level, ?_⟩
  rw [level]
  cases member.node.isInTypedef with
  | false => simp
  | true =>
    have known : (record.levelAfter markers).isSome = true := by
      apply levelAfter_isSome
      intro marker mem
      obtain ⟨isBefore, isMarker⟩ := List.mem_filter.mp mem
      exact spelled marker isBefore (beq_iff_eq.mp isMarker)
    rw [if_pos rfl]
    constructor
    · intro same
      rw [← same] at known
      cases known
    · rintro ⟨impossible, -⟩
      cases impossible

/-- Behind a group with a marker in each of its branches, the field `c` is private, as it would be
without the group. -/
theorem access_of_member_branched :
    ∃ node ∈ TranslationUnit.branched.root.children, ∃ before member after,
      children ⟨⟨node, none⟩, .branched⟩ = before ++ member :: after ∧ member.spelling = "c" ∧
      before.map (·.kind) = [.accessMarker, .fieldDecl, .accessMarker, .fieldDecl] ∧
      member.access? = some .selfOnly := by
  have facts : ∃ node ∈ TranslationUnit.branched.root.children, ∃ body, node.HasMembers body ∧
      node.kind = .record .classKey ∧
      (children ⟨⟨node, none⟩, .branched⟩).map (fun cursor =>
          (cursor.kind, cursor.node.isGrouped, cursor.node.isInTypedef, cursor.spelling)) =
        [(.accessMarker, true, false, ""), (.fieldDecl, true, false, "a"),
          (.accessMarker, true, false, ""), (.fieldDecl, true, false, "b")] ++
          [(.fieldDecl, false, false, "c")] ∧
      ∀ marker ∈ children ⟨⟨node, none⟩, .branched⟩, marker.kind = .accessMarker →
        marker.access?.isSome = true := by
    exact ⟨_, List.mem_cons_self, _, ⟨rfl, rfl, by decide⟩, rfl, by decide +kernel,
      by decide +kernel⟩
  obtain ⟨node, isChild, body, members, isClass, rows, spelled⟩ := facts
  obtain ⟨before, rest, listed, beforeRows, restRows⟩ := List.map_eq_append_iff.mp rows
  obtain ⟨member, after, rfl, memberRow, -⟩ := List.map_eq_cons_iff.mp restRows
  simp only [Prod.mk.injEq] at memberRow
  obtain ⟨isField, -, outside, name⟩ := memberRow
  have isRecord : (kind ⟨⟨node, none⟩, .branched⟩).isRecord = true := by
    rw [kind, Item.kind, Item.kindOfNode, isClass]
    rfl
  obtain ⟨level, -⟩ := access_of_member isRecord members listed (by simp [isField])
    (by simp [isField]) (fun marker mem => spelled marker (by simp [listed, mem]))
  have grouped : ∀ cursor ∈ before, cursor.node.isGrouped = true := by
    have ofRows : ∀ row ∈ before.map fun cursor =>
        (cursor.kind, cursor.node.isGrouped, cursor.node.isInTypedef, cursor.spelling),
          row.2.1 = true := by
      rw [beforeRows]
      decide
    exact List.forall_mem_map.mp ofRows
  have noOuter : (before.filter (·.kind == .accessMarker)).filter (!·.node.isGrouped) = [] := by
    rw [List.filter_eq_nil_iff]
    intro cursor mem
    simp [grouped cursor (List.mem_filter.mp mem).1]
  refine ⟨node, isChild, before, member, after, listed, name, ?_, ?_⟩
  · have kinds := congrArg (List.map Prod.fst) beforeRows
    rw [List.map_map] at kinds
    exact kinds
  · rw [level, noOuter, outside, if_neg Bool.false_ne_true, levelAfter, AccessLevel.initial]
    simp [isClass]

/-- The last marker that is listed before `a` is `public`, but `a` is private. -/
theorem access_of_member_behind_public :
    ∃ node ∈ TranslationUnit.branched.root.children, ∃ body, node.HasMembers body ∧
      kind ⟨⟨node, none⟩, .branched⟩ = .classDecl ∧ ∃ marker member after,
        children ⟨⟨node, none⟩, .branched⟩ = [marker] ++ member :: after ∧
        (marker.kind, marker.access?) = (.accessMarker, some .everyone) ∧
        (member.kind, member.access?) = (.fieldDecl, some .selfOnly) := by
  have facts : ∃ node ∈ TranslationUnit.branched.root.children, ∃ body, node.HasMembers body ∧
      kind ⟨⟨node, none⟩, .branched⟩ = .classDecl ∧
      ((children ⟨⟨node, none⟩, .branched⟩).map fun cursor => (cursor.kind, cursor.access?)) =
        [(.accessMarker, some .everyone), (.fieldDecl, some .selfOnly),
          (.accessMarker, some .derivedOnly), (.fieldDecl, some .selfOnly),
          (.fieldDecl, some .selfOnly)] := by
    exact ⟨_, List.mem_cons_self, _, ⟨rfl, rfl, by decide⟩, rfl, by decide +kernel⟩
  obtain ⟨node, isChild, body, members, isClass, rows⟩ := facts
  obtain ⟨marker, others, listed, ofMarker, rest⟩ := List.map_eq_cons_iff.mp rows
  obtain ⟨member, after, rfl, ofMember, -⟩ := List.map_eq_cons_iff.mp rest
  exact ⟨node, isChild, body, members, isClass, marker, member, after, listed, ofMarker, ofMember⟩

end Cursor

end DeclScope
