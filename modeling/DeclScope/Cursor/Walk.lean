import DeclScope.Cursor.Basic

/-!
# Walks

A walk visits cursors depth first and tells the level of each.  It is a machine with a stack of
half-visited sibling lists, asked for one cursor at a time, so whoever follows it may stop early.

* The *child walk* visits everything below a cursor, the direct children at the first level.
* The *top-level walk* visits a root, then its children at the same level, and goes only into the
  cursors that open a namespace.  Such a cursor is visited among its siblings, and at once again one
  level deeper, as the root of a walk of its own.

Every visit uses up weight, so both walks end; `toList` is all that a walk will visit.
-/

namespace DeclScope

/-- Which cursors a walk goes into. -/
inductive WalkMode where
  | toplevel
  | children
deriving DecidableEq, Inhabited

/-- A visited cursor and its level. -/
abbrev Visit := Cursor × Nat

/-- A walk under way. -/
structure Walk where
  mode : WalkMode
  /-- A root that is visited before anything on the stack. -/
  pending : Option Visit
  /-- The siblings still to be visited and their level, innermost first. -/
  stack : List (List Cursor × Nat)
deriving Inhabited

namespace Cursor

/-- A bound on the visits that a cursor causes. -/
def weight (cursor : Cursor) : Nat :=
  2 + cursor.children.attach.foldr (fun child total => child.1.weight + total) 0
termination_by cursor.size
decreasing_by exact size_lt_of_mem_children child.2

/-- The weight of several cursors. -/
def weightAll (cursors : List Cursor) : Nat :=
  cursors.foldr (fun cursor total => cursor.weight + total) 0

/-- The weight of several cursors is the sum of theirs. -/
theorem weightAll_cons (cursor : Cursor) (rest : List Cursor) :
    weightAll (cursor :: rest) = cursor.weight + weightAll rest := rfl

/-- A cursor weighs more than all its children together, by a visit as a child and one as a root. -/
theorem weight_eq (cursor : Cursor) : cursor.weight = 2 + weightAll cursor.children := by
  rw [weight, weightAll]
  exact congrArg (2 + ·) (List.foldr_attach (f := fun child total => weight child + total))

end Cursor

namespace Walk

/-- Visit a root at a level, then what is below it as far as the top-level walk goes. -/
def toplevel (root : Cursor) (level : Nat) : Walk := ⟨.toplevel, some (root, level), []⟩

/-- Visit everything below a root, its children at a level. -/
def children (root : Cursor) (level : Nat) : Walk := ⟨.children, none, [(root.children, level)]⟩

/-- The next visit from the stack, and the walk after it. -/
def nextOnStack (mode : WalkMode) : List (List Cursor × Nat) → Option (Visit × Walk)
  | [] => none
  | ([], _) :: rest => nextOnStack mode rest
  | (cursor :: siblings, level) :: rest =>
    some ((cursor, level),
      match mode with
      | .toplevel =>
        ⟨mode, if cursor.kind.isExpanded then some (cursor, level + 1) else none,
          (siblings, level) :: rest⟩
      | .children => ⟨mode, none, (cursor.children, level + 1) :: (siblings, level) :: rest⟩)

/-- The next visit, and the walk after it. -/
def next (walk : Walk) : Option (Visit × Walk) :=
  match walk.pending with
  | some (root, level) =>
    some ((root, level), ⟨walk.mode, none, (root.children, level) :: walk.stack⟩)
  | none => nextOnStack walk.mode walk.stack

/-- The weight of a stack. -/
def stackWeight (stack : List (List Cursor × Nat)) : Nat :=
  stack.foldr (fun (cursors, _) total => Cursor.weightAll cursors + total) 0

/-- The weight of a pending root, which has used up part of its own already. -/
def pendingWeight : Option Visit → Nat
  | some (root, _) => 1 + Cursor.weightAll root.children
  | none => 0

/-- A bound on the visits that are left. -/
def weight (walk : Walk) : Nat := pendingWeight walk.pending + stackWeight walk.stack

/-- What is pending and what is on the stack make up the weight. -/
theorem weight_mk (mode : WalkMode) (pending : Option Visit) (stack : List (List Cursor × Nat)) :
    weight ⟨mode, pending, stack⟩ = pendingWeight pending + stackWeight stack := rfl

/-- The weight of a stack is the sum of that of its lists. -/
theorem stackWeight_cons (cursors : List Cursor) (level : Nat)
    (rest : List (List Cursor × Nat)) :
    stackWeight ((cursors, level) :: rest) = Cursor.weightAll cursors + stackWeight rest := rfl

/-- A visit from the stack uses up weight. -/
theorem weight_nextOnStack {mode : WalkMode} {stack : List (List Cursor × Nat)} {visit : Visit}
    {after : Walk} (found : nextOnStack mode stack = some (visit, after)) :
    after.weight < stackWeight stack := by
  fun_induction nextOnStack mode stack with
  | case1 => cases found
  | case2 _ rest ih =>
    have below := ih found
    have empty : Cursor.weightAll [] = 0 := rfl
    rw [stackWeight_cons]
    omega
  | case3 cursor siblings level rest =>
    have used := cursor.weight_eq
    rw [stackWeight_cons, Cursor.weightAll_cons]
    cases mode with
    | toplevel =>
      cases found
      rw [weight_mk, stackWeight_cons]
      by_cases expanded : cursor.kind.isExpanded = true
      · rw [if_pos expanded, pendingWeight]
        omega
      · rw [if_neg expanded, pendingWeight]
        omega
    | children =>
      cases found
      rw [weight_mk, stackWeight_cons, stackWeight_cons, pendingWeight]
      omega

/-- Every visit uses up weight. -/
theorem weight_next {walk after : Walk} {visit : Visit} (found : walk.next = some (visit, after)) :
    after.weight < walk.weight := by
  obtain ⟨mode, pending, stack⟩ := walk
  show after.weight < pendingWeight pending + stackWeight stack
  match pending, found with
  | some (root, level), found =>
    obtain ⟨-, rfl⟩ :
        (root, level) = visit ∧ ⟨mode, none, (root.children, level) :: stack⟩ = after :=
      Prod.mk.inj (Option.some.inj found)
    rw [weight_mk, stackWeight_cons, pendingWeight, pendingWeight]
    omega
  | none, found =>
    have below : after.weight < stackWeight stack := weight_nextOnStack found
    have empty : pendingWeight none = 0 := rfl
    omega

/-- All visits that are left, in order. -/
def toList (walk : Walk) : List Visit :=
  match _found : walk.next with
  | some (visit, after) => visit :: after.toList
  | none => []
termination_by walk.weight
decreasing_by exact weight_next (by assumption)

end Walk

namespace Cursor

/-- The first visits to cursors of the kinds that a filter admits, all of them without a limit. -/
def narrow (filter : KindFilter) (limit? : Option Nat) (visits : List Visit) : List Visit :=
  let admitted := visits.filter fun (cursor, _) => filter.admits cursor.kind
  (limit?.map admitted.take).getD admitted

/-- The top-level walk from a cursor. -/
def toplevelWalk (cursor : Cursor) : List Visit := (Walk.toplevel cursor 0).toList

/-- The walk through everything below a cursor. -/
def childWalk (cursor : Cursor) : List Visit := (Walk.children cursor 0).toList

end Cursor

end DeclScope
