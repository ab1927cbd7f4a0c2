import DeclScope.Cursor.Walk
import Mathlib.Data.List.Chain

/-!
# The recursion behind the walks

A walk is a machine that keeps half-visited sibling lists on a stack.  What it still has to visit
is a function of its state, given by recursion on cursors: an *outline* lists everything from
several siblings on, and a list of *scopes* goes only into the cursors that open one.  Each call of
`next` takes exactly one visit off the front of that function, so a walk ends after finitely many
calls and has then yielded exactly the recursive list.

The recursion is on a virtual tree, whose children are computed from the syntax.  It ends because a
cursor weighs more than all its children together.

From the levels alone an outline can be read back: which entries are direct children, which entry
is the parent of which, and in which place.  Nothing is said here about the order of the syntax
nodes behind the entries.
-/

namespace DeclScope

namespace Cursor

/-- Each sibling at a level, followed by everything below it from the next level on. -/
def outline : List Cursor → Nat → List Visit
  | [], _ => []
  | cursor :: rest, level =>
    (cursor, level) :: (outline cursor.children (level + 1) ++ outline rest level)
termination_by cursors => weightAll cursors
decreasing_by
  all_goals rw [weightAll_cons]; have := cursor.weight_eq; omega

/-- Each sibling at a level; one that opens a scope is followed by itself and by the siblings in
that scope, all at the next level. -/
def scopes : List Cursor → Nat → List Visit
  | [], _ => []
  | cursor :: rest, level =>
    (cursor, level) ::
      ((if cursor.kind.isExpanded then
          (cursor, level + 1) :: scopes cursor.children (level + 1)
        else []) ++ scopes rest level)
termination_by cursors => weightAll cursors
decreasing_by
  all_goals rw [weightAll_cons]; have := cursor.weight_eq; omega

/-- Everything below a cursor, its children at a level. -/
def descendants (cursor : Cursor) (level : Nat) : List Visit := outline cursor.children level

end Cursor

namespace Walk

open Cursor

/-- What the calls of `next` yield up to the first that yields nothing.  A derivation is finite, so
it also says that there is such a call. -/
inductive Yields : Walk → List Visit → Prop where
  | exhausted {walk : Walk} (observed : walk.next = none) : Yields walk []
  | yielded {walk after : Walk} {visit : Visit} {visits : List Visit}
      (observed : walk.next = some (visit, after)) (rest : Yields after visits) :
      Yields walk (visit :: visits)

/-- What a walk visits from several siblings on. -/
def listing : WalkMode → List Cursor → Nat → List Visit
  | .toplevel => scopes
  | .children => outline

/-- What a pending root will be visited for. -/
def remainingPending (mode : WalkMode) : Option Visit → List Visit
  | some (root, level) => (root, level) :: listing mode root.children level
  | none => []

/-- What the lists on a stack will be visited for. -/
def remainingStack (mode : WalkMode) (stack : List (List Cursor × Nat)) : List Visit :=
  stack.flatMap fun (cursors, level) => listing mode cursors level

/-- What a walk still has to visit. -/
def remaining (walk : Walk) : List Visit :=
  remainingPending walk.mode walk.pending ++ remainingStack walk.mode walk.stack

/-- The list on top of a stack comes first. -/
theorem remainingStack_cons (mode : WalkMode) (cursors : List Cursor) (level : Nat)
    (rest : List (List Cursor × Nat)) :
    remainingStack mode ((cursors, level) :: rest) =
      listing mode cursors level ++ remainingStack mode rest :=
  List.flatMap_cons

/-- A used-up list has nothing to visit. -/
theorem listing_nil (mode : WalkMode) (level : Nat) : listing mode [] level = [] := by
  cases mode
  · exact scopes.eq_1 level
  · exact outline.eq_1 level

/-- Without a next visit from the stack there is nothing left on it. -/
theorem remainingStack_of_none {mode : WalkMode} {stack : List (List Cursor × Nat)}
    (observed : nextOnStack mode stack = none) : remainingStack mode stack = [] := by
  fun_induction nextOnStack mode stack with
  | case1 => rfl
  | case2 level rest inductionHypothesis =>
    rw [remainingStack_cons, listing_nil, List.nil_append]
    exact inductionHypothesis observed
  | case3 => cases observed

/-- A visit from the stack is the first of what was left, and the walk after it has the rest left.
In the top-level walk a cursor that opens a scope becomes pending; in the child walk the children
of every cursor go on the stack. -/
theorem remainingStack_of_some {mode : WalkMode} {stack : List (List Cursor × Nat)} {visit : Visit}
    {after : Walk} (observed : nextOnStack mode stack = some (visit, after)) :
    remainingStack mode stack = visit :: after.remaining := by
  fun_induction nextOnStack mode stack with
  | case1 => cases observed
  | case2 level rest inductionHypothesis =>
    rw [remainingStack_cons, listing_nil, List.nil_append]
    exact inductionHypothesis observed
  | case3 cursor siblings level rest =>
    cases mode with
    | toplevel =>
      cases observed
      by_cases expanded : cursor.kind.isExpanded = true
      · simp [remainingStack_cons, remaining, remainingPending, listing, scopes, expanded]
      · simp [remainingStack_cons, remaining, remainingPending, listing, scopes, expanded]
    | children =>
      cases observed
      simp [remainingStack_cons, remaining, remainingPending, listing, outline]

/-- A walk without a next visit has nothing left. -/
theorem remaining_of_none {walk : Walk} (observed : walk.next = none) : walk.remaining = [] := by
  obtain ⟨mode, pending, stack⟩ := walk
  cases pending with
  | none => exact remainingStack_of_none observed
  | some root => cases observed

/-- One call of `next` takes one visit off the front of what is left. -/
theorem remaining_of_some {walk after : Walk} {visit : Visit}
    (observed : walk.next = some (visit, after)) : walk.remaining = visit :: after.remaining := by
  obtain ⟨mode, pending, stack⟩ := walk
  cases pending with
  | none => exact remainingStack_of_some observed
  | some root =>
    cases observed
    rw [remaining, remainingPending, remaining, remainingPending, remainingStack_cons,
      List.nil_append, List.cons_append]

/-- A walk yields what it has left. -/
theorem yields_remaining (walk : Walk) : walk.Yields walk.remaining := by
  fun_induction toList walk with
  | case1 walk visit after observed inductionHypothesis =>
    rw [remaining_of_some observed]
    exact .yielded observed inductionHypothesis
  | case2 walk observed =>
    rw [remaining_of_none observed]
    exact .exhausted observed

/-- The list of a walk is what it has left. -/
theorem toList_eq_remaining (walk : Walk) : walk.toList = walk.remaining := by
  fun_induction toList walk with
  | case1 walk visit after observed inductionHypothesis =>
    rw [remaining_of_some observed, inductionHypothesis]
  | case2 walk observed => rw [remaining_of_none observed]

end Walk

end DeclScope
