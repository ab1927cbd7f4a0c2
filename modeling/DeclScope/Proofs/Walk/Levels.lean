import DeclScope.Proofs.Walk.Outline

/-!
# Reading the hierarchy off the levels

An outline is a flat list of cursors with levels, and the levels suffice to rebuild the tree of
cursors that it was made from.  The entries at the first level are the cursors that it starts from;
the children of an entry are the entries one level deeper before the next entry that is not deeper;
the parent of an entry is the last earlier entry one level up, and the entry stands among its
children in the place given by the number of entries of its own level in between.

All statements go by induction on the outline, whose entries come in three groups: a first cursor,
everything below it, and everything from its next sibling on.
-/

namespace DeclScope

namespace Cursor

/-- An outline is the concatenation over its cursors of each with everything below it. -/
theorem outline_eq_flatMap (cursors : List Cursor) (level : Nat) :
    outline cursors level =
      cursors.flatMap fun cursor => (cursor, level) :: cursor.descendants (level + 1) := by
  induction cursors with
  | nil => exact outline.eq_1 level
  | cons cursor rest inductionHypothesis =>
    rw [outline, inductionHypothesis, List.flatMap_cons, List.cons_append]
    rfl

/-- No entry of an outline is above its first level. -/
theorem le_of_mem_outline {cursors : List Cursor} {level : Nat} {visit : Visit}
    (mem : visit ∈ outline cursors level) : level ≤ visit.2 := by
  fun_induction outline cursors level with
  | case1 => cases mem
  | case2 cursor rest level below later =>
    rcases List.mem_cons.mp mem with rfl | deeper
    · exact Nat.le_refl level
    · rcases List.mem_append.mp deeper with inside | behind
      · exact Nat.le_of_succ_le (below inside)
      · exact later behind

/-- An outline one level deeper has no entry at the level above. -/
theorem outline_filter_above (cursors : List Cursor) (level : Nat) :
    (outline cursors (level + 1)).filter (·.2 == level) = [] := by
  rw [List.filter_eq_nil_iff]
  intro visit inside
  have below : level + 1 ≤ visit.2 := le_of_mem_outline inside
  rw [beq_iff_eq]
  omega

/-- The entries at the first level are the cursors that the outline starts from. -/
theorem outline_filter_level (cursors : List Cursor) (level : Nat) :
    ((outline cursors level).filter (·.2 == level)).map (·.1) = cursors := by
  induction cursors with
  | nil => rw [outline]; rfl
  | cons cursor rest inductionHypothesis =>
    rw [outline, List.filter_cons_of_pos (by simp), List.filter_append, outline_filter_above,
      List.nil_append, List.map_cons, inductionHypothesis]

/-- An outline starts at its first level, so a search for deeper entries ends at its head. -/
theorem outline_takeWhile (cursors : List Cursor) {level depth : Nat} (above : level ≤ depth) :
    (outline cursors level).takeWhile (depth < ·.2) = [] := by
  cases cursors with
  | nil => rw [outline]; rfl
  | cons cursor rest =>
    rw [outline, List.takeWhile_cons_of_neg]
    simp only [decide_eq_true_eq]
    omega

/-- An outline starts at its first level. -/
theorem level_of_mem_head? {cursors : List Cursor} {level : Nat} {visit : Visit}
    (first : visit ∈ (outline cursors level).head?) : visit.2 = level := by
  cases cursors with
  | nil => rw [outline] at first; cases first
  | cons cursor rest =>
    rw [outline, List.head?_cons] at first
    cases first
    rfl

/-- An entry of an outline is its first cursor, or stands below that, or comes from a later
sibling. -/
theorem outline_cons_split {cursor : Cursor} {rest : List Cursor} {level : Nat} {entry : Visit}
    {before after : List Visit} (split : (cursor, level) ::
      (outline cursor.children (level + 1) ++ outline rest level) = before ++ entry :: after) :
    (before = [] ∧ entry = (cursor, level) ∧
      after = outline cursor.children (level + 1) ++ outline rest level) ∨
    (∃ between inner, before = (cursor, level) :: between ∧
      outline cursor.children (level + 1) = between ++ entry :: inner ∧
      after = inner ++ outline rest level) ∨
    ∃ gap, before = (cursor, level) :: (outline cursor.children (level + 1) ++ gap) ∧
      outline rest level = gap ++ entry :: after := by
  rcases List.cons_eq_append_iff.mp split with ⟨rfl, here⟩ | ⟨between, rfl, further⟩
  · obtain ⟨same, following⟩ := List.cons.inj here
    exact .inl ⟨rfl, same, following⟩
  · rcases List.append_eq_append_iff.mp further with ⟨gap, rfl, behind⟩ | ⟨gap, inside, last⟩
    · exact .inr (.inr ⟨gap, rfl, behind⟩)
    · rcases List.cons_eq_append_iff.mp last with ⟨rfl, behind⟩ | ⟨inner, rfl, following⟩
      · rw [List.append_nil] at inside
        exact .inr (.inr ⟨[], by rw [inside, List.append_nil], behind⟩)
      · exact .inr (.inl ⟨between, inner, rfl, inside, following⟩)

/-- The entries that follow an entry, as far as they are deeper, are what is below its cursor.  Of
the siblings behind an entry none counts, since the first of them is not deeper. -/
theorem takeWhile_after_entry {cursors : List Cursor} {level : Nat} {before after : List Visit}
    {parent : Cursor} {depth : Nat}
    (split : outline cursors level = before ++ (parent, depth) :: after) :
    after.takeWhile (depth < ·.2) = parent.descendants (depth + 1) := by
  fun_induction outline cursors level generalizing before after with
  | case1 => simp at split
  | case2 cursor rest level below later =>
    rcases outline_cons_split split with
      ⟨-, same, rfl⟩ | ⟨between, inner, -, inside, rfl⟩ | ⟨gap, -, behind⟩
    · cases same
      rw [List.takeWhile_append_of_pos, outline_takeWhile rest (Nat.le_refl _),
        List.append_nil]
      · rfl
      · intro visit deeper
        exact decide_eq_true (le_of_mem_outline deeper)
    · have entryBelow : level + 1 ≤ ((parent, depth) : Visit).2 := le_of_mem_outline (by
        rw [inside]
        exact List.mem_append_right between List.mem_cons_self)
      have stops : (outline rest level).takeWhile (depth < ·.2) = [] :=
        outline_takeWhile rest (Nat.le_of_succ_le entryBelow)
      have whole : inner.takeWhile (depth < ·.2) = parent.descendants (depth + 1) := below inside
      rw [List.takeWhile_append, stops, List.append_nil]
      split
      · rename_i complete
        rw [← whole]
        exact ((List.takeWhile_prefix _).eq_of_length complete).symm
      · exact whole
    · exact later behind

/-- Before an entry of a cursor comes its parent: the last earlier entry one level up.  Its place
among the children of the parent is the number of entries of its own level in between. -/
def FollowsParent (before : List Visit) (child : Cursor) (upper : Nat) : Prop :=
  ∃ earlier parent between, before = earlier ++ (parent, upper) :: between ∧
    (∀ visit ∈ between, upper < visit.2) ∧
    parent.children[(between.filter (·.2 == upper + 1)).length]? = some child

/-- More entries in front do not change the parent. -/
theorem FollowsParent.prepend {before : List Visit} {child : Cursor} {upper : Nat}
    (front : List Visit) (found : FollowsParent before child upper) :
    FollowsParent (front ++ before) child upper := by
  obtain ⟨earlier, parent, between, rfl, deeper, place⟩ := found
  exact ⟨front ++ earlier, parent, between, by rw [List.append_assoc], deeper, place⟩

/-- An entry of an outline at its first level is one of the cursors that it starts from, and any
deeper entry follows its parent.

An entry right below the first cursor has that cursor as its parent: everything in between is
deeper than it.  In all other cases the parent is found among fewer entries. -/
theorem first_or_followsParent {cursors : List Cursor} {level : Nat} {before after : List Visit}
    {child : Cursor} {depth : Nat}
    (split : outline cursors level = before ++ (child, depth) :: after) :
    (depth = level ∧ cursors[(before.filter (·.2 == level)).length]? = some child) ∨
      ∃ upper, depth = upper + 1 ∧ FollowsParent before child upper := by
  fun_induction outline cursors level generalizing before after with
  | case1 => simp at split
  | case2 cursor rest level below later =>
    rcases outline_cons_split split with
      ⟨rfl, same, -⟩ | ⟨between, inner, rfl, inside, -⟩ | ⟨gap, rfl, behind⟩
    · cases same
      exact .inl ⟨rfl, rfl⟩
    · right
      rcases below inside with ⟨rfl, place⟩ | ⟨upper, rfl, found⟩
      · refine ⟨level, rfl, [], cursor, between, rfl, ?_, place⟩
        intro visit among
        exact le_of_mem_outline (inside ▸ List.mem_append_left _ among)
      · exact ⟨upper, rfl, found.prepend [(cursor, level)]⟩
    · rcases later behind with ⟨rfl, place⟩ | ⟨upper, rfl, found⟩
      · refine .inl ⟨rfl, ?_⟩
        rw [List.filter_cons_of_pos (by simp), List.filter_append, outline_filter_above,
          List.nil_append, List.length_cons, List.getElem?_cons_succ]
        exact place
      · exact .inr ⟨upper, rfl, found.prepend ((cursor, level) :: outline cursor.children _)⟩

/-- Levels rise by at most one from an entry to the next. -/
theorem outline_isChain (cursors : List Cursor) (level : Nat) :
    (outline cursors level).IsChain fun visit next => next.2 ≤ visit.2 + 1 := by
  fun_induction outline cursors level with
  | case1 => exact List.isChain_nil
  | case2 cursor rest level below later =>
    rw [List.isChain_cons]
    constructor
    · intro next first
      rw [List.head?_append, Option.mem_def, Option.or_eq_some_iff] at first
      rcases first with inside | ⟨-, behind⟩
      · exact Nat.le_of_eq (level_of_mem_head? inside)
      · exact Nat.le_succ_of_le (Nat.le_of_eq (level_of_mem_head? behind))
    · refine below.append later ?_
      intro visit last next first
      have deeper : level + 1 ≤ visit.2 := le_of_mem_outline (List.mem_of_mem_getLast? last)
      rw [level_of_mem_head? first]
      omega

/-- What a list of visits tells by its levels about the cursors below a cursor. -/
structure Describes (cursor : Cursor) (level : Nat) (visits : List Visit) : Prop where
  /-- The entries at the first level are the children, in order. -/
  direct : (visits.filter (·.2 == level)).map (·.1) = cursor.children
  /-- The entries one level deeper than an entry, before the next one that is not deeper, are its
  children, in order. -/
  below : ∀ before parent depth after, visits = before ++ (parent, depth) :: after →
    ((after.takeWhile (depth < ·.2)).filter (·.2 == depth + 1)).map (·.1) = parent.children
  /-- The parent of any deeper entry is the last earlier entry one level up. -/
  parent : ∀ before child upper after, visits = before ++ (child, upper + 1) :: after →
    level ≤ upper → FollowsParent before child upper
  /-- Levels rise by at most one from an entry to the next. -/
  rises : visits.IsChain fun visit next => next.2 ≤ visit.2 + 1

/-- Everything below a cursor describes it. -/
theorem describes_descendants (cursor : Cursor) (level : Nat) :
    cursor.Describes level (cursor.descendants level) where
  direct := outline_filter_level cursor.children level
  below := by
    intro before parent depth after split
    rw [takeWhile_after_entry split]
    exact outline_filter_level parent.children (depth + 1)
  parent := by
    intro before child upper after split deeper
    rcases first_or_followsParent split with ⟨same, -⟩ | ⟨other, same, found⟩
    · omega
    · rw [Nat.succ.inj same]
      exact found
  rises := outline_isChain cursor.children level

/-- The child walk ends, and it yields the recursive list of everything below its root: for each
child in order the child and then, one level deeper, everything below the child.  The levels of
that list describe the hierarchy of the cursors. -/
theorem children_yields_descendants (cursor : Cursor) (level : Nat) :
    (Walk.children cursor level).Yields (cursor.descendants level) ∧
      cursor.descendants level =
        cursor.children.flatMap
          (fun child => (child, level) :: child.descendants (level + 1)) ∧
      cursor.Describes level (cursor.descendants level) := by
  refine ⟨?_, outline_eq_flatMap cursor.children level, describes_descendants cursor level⟩
  have left : (Walk.children cursor level).remaining = cursor.descendants level := by
    rw [Walk.remaining, Walk.children, Walk.remainingStack_cons]
    exact List.append_nil _
  rw [← left]
  exact Walk.yields_remaining (Walk.children cursor level)

end Cursor

end DeclScope
