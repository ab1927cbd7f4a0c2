import DeclScope.Observer.Registry

/-!
# Dispatch

The cursors of the top-level walk go out one by one, each to all subscribers in order; a class
definition that is announced on the way goes to all who take definitions before anything else
happens.  The first failure ends the run, and what was done before it stays done.

An observer that is in use is *busy*: one that the caller keeps for the duration, or one whose
announcement is being delivered.  Its turn, whether or not it asked for that kind of cursor, ends
the run with `observerBusy`.
-/

namespace DeclScope.Behaviour

variable {σ : Type}

/-- Hand a class definition to observers, in order. -/
def notify (behaviour : Behaviour σ) (busy : List ObserverId) (definition : ClassDefinition) :
    List ObserverId → Store σ → Run σ
  | [], store => .idle store
  | id :: rest, store =>
    if id ∈ busy then .fail store .observerBusy
    else if behaviour.takesClasses (store.get id) then
      let (state, failure?) := behaviour.onClass (store.get id) definition
      let run : Run σ := match failure? with
        | some failure => .fail (store.set id state) failure.toError
        | none => behaviour.notify busy definition rest (store.set id state)
      run.after [.classCall id definition]
    else behaviour.notify busy definition rest store

/-- Carry out what a reaction to a cursor ends with. -/
def conclude (behaviour : Behaviour σ) (busy classList : List ObserverId) (store : Store σ) :
    Conclusion → Run σ
  | .done => .idle store
  | .failed failure => .fail store failure.toError
  | .announces definition => (behaviour.notify busy definition classList store).relayed

/-- Hand a cursor to one subscriber. -/
def handTo (behaviour : Behaviour σ) (busy classList : List ObserverId) (cursor : Cursor)
    (subscriber : Subscriber) (store : Store σ) : Run σ :=
  match subscriber with
  | .expander =>
    if Expander.filter.admits cursor.kind then
      let (logs, conclusion) := Expander.react cursor
      (behaviour.conclude busy classList store conclusion).after
        (.cursorCall subscriber cursor :: logs.map .log)
    else .idle store
  | .observer id =>
    let state := store.get id
    if id ∈ busy then .fail store .observerBusy
    else if behaviour.takesCursors state && (behaviour.filter state).admits cursor.kind then
      let reaction := behaviour.onCursor state cursor
      (behaviour.conclude (id :: busy) classList (store.set id reaction.state)
        reaction.conclusion).after (.cursorCall subscriber cursor :: reaction.logs.map .log)
    else .idle store

/-- Hand a cursor to subscribers, in order. -/
def dispatch (behaviour : Behaviour σ) (busy classList : List ObserverId) (cursor : Cursor) :
    List Subscriber → Store σ → Run σ
  | [], store => .idle store
  | subscriber :: rest, store =>
    (behaviour.handTo busy classList cursor subscriber store).andThen
      (behaviour.dispatch busy classList cursor rest)

/-- Hand cursors to all subscribers of a registry, in order. -/
def dispatchAll (behaviour : Behaviour σ) (busy : List ObserverId) (registry : Registry) :
    List Cursor → Store σ → Run σ
  | [], store => .idle store
  | cursor :: rest, store =>
    (behaviour.dispatch busy registry.classList cursor registry.cursorList store).andThen
      (behaviour.dispatchAll busy registry rest)

end DeclScope.Behaviour
