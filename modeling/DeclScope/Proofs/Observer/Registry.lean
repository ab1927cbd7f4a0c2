import DeclScope.Observer.Registry

/-!
# Registries that can come about

A registry starts with the expander and nobody else, and changes only by additions and removals of
observers.  Neither touches the expander, so in every registry that comes about it stands first
among those who get cursors, and stands there once.
-/

namespace DeclScope.Registry

/-- The registries that come about by adding and removing observers. -/
inductive Built : Registry → Prop where
  | initial : Built initial
  | add {registry next : Registry} {id : ObserverId} {isBusy takesCursors takesClasses : Bool}
      (built : Built registry)
      (added : registry.add id isBusy takesCursors takesClasses = .ok next) : Built next
  | remove {registry : Registry} (built : Built registry) (id : ObserverId) :
      Built (registry.remove id)

/-- The subscribers with the expander in front of some observers. -/
def expanderFirst (observers : List ObserverId) : List Subscriber :=
  .expander :: observers.map .observer

/-- An addition puts the observer behind all others or leaves the cursor list alone. -/
theorem cursorList_of_add {registry next : Registry} {id : ObserverId}
    {isBusy takesCursors takesClasses : Bool}
    (added : registry.add id isBusy takesCursors takesClasses = .ok next) :
    next.cursorList = registry.cursorList ++ if takesCursors then [.observer id] else [] := by
  unfold add at added
  split at added
  · cases added
  · split at added
    · cases added
    · cases added
      rfl

/-- A removal leaves the expander and takes the observer out from behind it. -/
theorem filter_expanderFirst (observers : List ObserverId) (id : ObserverId) :
    (expanderFirst observers).filter (· != .observer id) =
      expanderFirst (observers.filter (· != id)) := by
  rw [expanderFirst, List.filter_cons_of_pos (by rfl), List.filter_map, expanderFirst]
  congr 2
  apply List.filter_congr
  intro other _
  rw [Function.comp, Bool.eq_iff_iff, bne_iff_ne, bne_iff_ne]
  exact not_congr (Subscriber.observer.injEq other id).to_iff

/-- In a registry that comes about, the expander is in front of all observers. -/
theorem Built.cursorList_eq {registry : Registry} (built : registry.Built) :
    ∃ observers, registry.cursorList = expanderFirst observers := by
  induction built with
  | initial => exact ⟨[], rfl⟩
  | add built added inductionHypothesis =>
    rename_i registry next id isBusy takesCursors takesClasses
    obtain ⟨observers, same⟩ := inductionHypothesis
    refine ⟨observers ++ if takesCursors then [id] else [], ?_⟩
    rw [cursorList_of_add added, same]
    cases takesCursors <;> simp [expanderFirst]
  | remove built id inductionHypothesis =>
    obtain ⟨observers, same⟩ := inductionHypothesis
    refine ⟨observers.filter (· != id), ?_⟩
    rw [Registry.remove, same]
    exact filter_expanderFirst observers id

end DeclScope.Registry
