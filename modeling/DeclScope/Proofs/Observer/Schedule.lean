import DeclScope.Analyzer

/-!
# The schedule of a dispatch

Two nested loops hand out cursors and class definitions, with a filter in front of each handler and
an exit after each failure.  What they are meant to do is one plain list of *turns*, fixed before
anything runs: the cursors in order, for each cursor the subscribers in order, and right behind the
expander's turn on a class definition a turn for everyone who takes definitions.

Whether a turn leads to a call is up to the observer, in the state that it is in by then: it may not
ask for cursors of that kind.  The *intended* calls are those of all turns, one after the other,
whatever fails on the way.  A run makes the intended calls up to and including the first that fails,
and ends with the error of that one.

Observers are state machines, so what one never does is said of all states that it can come to.
Announcements by observers other than the expander are outside of the schedule, and so are observers
that somebody else is using.
-/

namespace DeclScope

/-- Whether an event is a call of a handler. -/
def Event.isCall : Event → Bool
  | .log _ => false
  | .cursorCall _ _ => true
  | .classCall _ _ => true

/-- A handler whose turn it is. -/
inductive Turn where
  /-- A cursor for a subscriber. -/
  | cursor (subscriber : Subscriber) (cursor : Cursor)
  /-- A class definition for an observer. -/
  | definition (id : ObserverId) (definition : ClassDefinition)

/-- A call, and the failure of its handler if there is any. -/
structure Call where
  event : Event
  failure? : Option Failure

/-- The failure that a reaction ends with. -/
def Conclusion.failure? : Conclusion → Option Failure
  | .failed failure => some failure
  | _ => none

namespace Expander

/-- Whether a cursor makes an expander announce a class. -/
def announces (cursor : Cursor) : Bool := filter.admits cursor.kind && cursor.isDefinition

end Expander

namespace Registry

/-- The turns that a cursor gives to a subscriber.  Behind that of the expander come those of
everyone who takes definitions, when the cursor defines a class. -/
def turnsOf (classList : List ObserverId) (cursor : Cursor) : Subscriber → List Turn
  | .expander =>
    .cursor .expander cursor ::
      if Expander.announces cursor then
        classList.map (.definition · (ClassDefinition.expand cursor).1)
      else []
  | .observer id => [.cursor (.observer id) cursor]

/-- The turns that cursors give to the subscribers of a registry. -/
def schedule (registry : Registry) (cursors : List Cursor) : List Turn :=
  cursors.flatMap fun cursor =>
    registry.cursorList.flatMap (turnsOf registry.classList cursor)

end Registry

namespace Behaviour

variable {σ : Type} (behaviour : Behaviour σ)

/-- The states that an observer can come to by handling calls. -/
inductive Reaches (start : σ) : σ → Prop where
  | start : Reaches start start
  | onCursor {state : σ} (reached : Reaches start state) (cursor : Cursor) :
      Reaches start (behaviour.onCursor state cursor).state
  | onClass {state : σ} (reached : Reaches start state) (definition : ClassDefinition) :
      Reaches start (behaviour.onClass state definition).1

/-- A property holds in all states that an observer can come to. -/
def Always (property : σ → Prop) (start : σ) : Prop :=
  ∀ state, behaviour.Reaches start state → property state

/-- In this state an observer announces no class of its own, whatever cursor it gets. -/
def Silent (state : σ) : Prop :=
  ∀ cursor definition, (behaviour.onCursor state cursor).conclusion ≠ .announces definition

/-- In this state an observer fails on nothing. -/
def Steady (state : σ) : Prop :=
  (∀ cursor, (behaviour.onCursor state cursor).conclusion.failure? = none) ∧
    ∀ definition, (behaviour.onClass state definition).2 = none

/-- What comes of a turn: the call, unless the handler is not asked, and the states after it. -/
def take (store : Store σ) : Turn → Option Call × Store σ
  | .cursor .expander cursor =>
    (if Expander.filter.admits cursor.kind then some ⟨.cursorCall .expander cursor, none⟩ else none,
      store)
  | .cursor (.observer id) cursor =>
    let state := store.get id
    if behaviour.takesCursors state && (behaviour.filter state).admits cursor.kind then
      let reaction := behaviour.onCursor state cursor
      (some ⟨.cursorCall (.observer id) cursor, reaction.conclusion.failure?⟩,
        store.set id reaction.state)
    else (none, store)
  | .definition id definition =>
    if behaviour.takesClasses (store.get id) then
      let result := behaviour.onClass (store.get id) definition
      (some ⟨.classCall id definition, result.2⟩, store.set id result.1)
    else (none, store)

/-- The calls of all turns, whatever fails on the way. -/
def intended : List Turn → Store σ → List Call
  | [], _ => []
  | turn :: rest, store =>
    (behaviour.take store turn).1.toList ++ intended rest (behaviour.take store turn).2

/-- The states after all turns, whatever fails on the way. -/
def afterTurns (turns : List Turn) (store : Store σ) : Store σ :=
  turns.foldl (fun store turn => (behaviour.take store turn).2) store

/-- Turns one after the other make the calls of the first and then, from the states these leave, the
calls of the others. -/
theorem intended_append (turns more : List Turn) (store : Store σ) :
    behaviour.intended (turns ++ more) store =
      behaviour.intended turns store ++
        behaviour.intended more (behaviour.afterTurns turns store) := by
  induction turns generalizing store with
  | nil => rfl
  | cons turn rest inductionHypothesis =>
    rw [List.cons_append, intended, intended, inductionHypothesis, List.append_assoc]
    rfl

/-- The states after turns one after the other. -/
theorem afterTurns_append (turns more : List Turn) (store : Store σ) :
    behaviour.afterTurns (turns ++ more) store =
      behaviour.afterTurns more (behaviour.afterTurns turns store) :=
  List.foldl_append

variable {behaviour}

/-- What follows from an invariant always holds, if the invariant holds at the start and every call
keeps it. -/
theorem Always.of_invariant (invariant : σ → Prop) {property : σ → Prop} {start : σ}
    (initial : invariant start)
    (onCursor : ∀ state cursor, invariant state →
      invariant (behaviour.onCursor state cursor).state)
    (onClass : ∀ state definition, invariant state →
      invariant (behaviour.onClass state definition).1)
    (enough : ∀ state, invariant state → property state) : behaviour.Always property start := by
  intro state reached
  apply enough
  induction reached with
  | start => exact initial
  | onCursor _ cursor inductionHypothesis => exact onCursor _ cursor inductionHypothesis
  | onClass _ definition inductionHypothesis => exact onClass _ definition inductionHypothesis

/-- What always holds holds at the start. -/
theorem Always.now {property : σ → Prop} {state : σ} (always : behaviour.Always property state) :
    property state :=
  always state .start

/-- What always holds still holds always after a cursor. -/
theorem Always.onCursor {property : σ → Prop} {state : σ}
    (always : behaviour.Always property state) (cursor : Cursor) :
    behaviour.Always property (behaviour.onCursor state cursor).state := by
  intro later reached
  apply always
  induction reached with
  | start => exact .onCursor .start cursor
  | onCursor _ next inductionHypothesis => exact .onCursor inductionHypothesis next
  | onClass _ next inductionHypothesis => exact .onClass inductionHypothesis next

/-- What always holds still holds always after a class definition. -/
theorem Always.onClass {property : σ → Prop} {state : σ}
    (always : behaviour.Always property state) (definition : ClassDefinition) :
    behaviour.Always property (behaviour.onClass state definition).1 := by
  intro later reached
  apply always
  induction reached with
  | start => exact .onClass .start definition
  | onCursor _ next inductionHypothesis => exact .onCursor inductionHypothesis next
  | onClass _ next inductionHypothesis => exact .onClass inductionHypothesis next

/-- A turn changes the state of one observer at most, to one that it can come to, so what always
holds of an observer still does after a turn. -/
theorem Always.take {property : σ → Prop} {store : Store σ} {id : ObserverId}
    (always : behaviour.Always property (store.get id)) (turn : Turn) :
    behaviour.Always property ((behaviour.take store turn).2.get id) := by
  match turn with
  | .cursor .expander cursor => exact always
  | .cursor (.observer other) cursor =>
    unfold Behaviour.take
    dsimp only
    split
    · by_cases same : other = id
      · subst same
        simpa using always.onCursor cursor
      · simpa [same] using always
    · exact always
  | .definition other definition =>
    unfold Behaviour.take
    dsimp only
    split
    · by_cases same : other = id
      · subst same
        simpa using always.onClass definition
      · simpa [same] using always
    · exact always

/-- What always holds of an observer still does after any turns. -/
theorem Always.afterTurns {property : σ → Prop} {store : Store σ} {id : ObserverId}
    (always : behaviour.Always property (store.get id)) (turns : List Turn) :
    behaviour.Always property ((behaviour.afterTurns turns store).get id) := by
  induction turns generalizing store with
  | nil => exact always
  | cons turn rest inductionHypothesis => exact inductionHypothesis (always.take turn)

end Behaviour

end DeclScope
