import DeclScope.Observer.Basic

/-!
# Who is subscribed

A registry keeps two lists: who gets cursors, and who gets class definitions.  The built-in expander
is the first to get cursors.  An observer is added to the end of each list that it can take part in,
as often as it is added; removing it takes out every occurrence from both.
-/

namespace DeclScope

/-- The subscribers to cursors and to class definitions, in the order in which they were added. -/
structure Registry where
  cursorList : List Subscriber := [.expander]
  classList : List ObserverId := []
deriving DecidableEq, Inhabited

namespace Registry

/-- The registry with nobody added. -/
def initial : Registry := {}

/-- Add an observer.  One that is in use cannot be asked what it takes; one that takes nothing is
refused. -/
def add (registry : Registry) (id : ObserverId) (isBusy takesCursors takesClasses : Bool) :
    Except Error Registry :=
  if isBusy then .error .observerBusy
  else if !takesCursors && !takesClasses then .error .unrecognizedObserver
  else .ok
    ⟨registry.cursorList ++ (if takesCursors then [.observer id] else []),
      registry.classList ++ (if takesClasses then [id] else [])⟩

/-- Remove an observer wherever it stands. -/
def remove (registry : Registry) (id : ObserverId) : Registry :=
  ⟨registry.cursorList.filter (· != .observer id), registry.classList.filter (· != id)⟩

/-- The record of an addition. -/
def additionRecord (takesCursors takesClasses : Bool) : LogRecord :=
  ⟨.debug, "Registered observer",
    [("cursor", if takesCursors then "true" else "false"),
      ("definition", if takesClasses then "true" else "false")]⟩

end Registry

end DeclScope
