import DeclScope.Declaration.ClassDefinition
import DeclScope.Error
import DeclScope.Observer.Store

/-!
# Observers

An observer is a state machine.  It may take cursors, of the kinds that it asks for, and it may
take class definitions.  On a cursor it changes its state, may write log records, and then is
done, fails, or announces one class definition to all who take definitions; an announcement is the
last thing that it does, and if that fails, so does the observer.  On a class definition it
changes its state and is done or fails.

All observers of a run share one type of states; a `Behaviour` says what each state can do.
-/

namespace DeclScope

/-- How an observer ends the handling of a cursor. -/
inductive Conclusion where
  | done
  | failed (failure : Failure)
  /-- A class definition goes to all who take definitions. -/
  | announces (definition : ClassDefinition)
deriving Inhabited

/-- What an observer does on a cursor. -/
structure Reaction (σ : Type) where
  state : σ
  logs : List LogRecord
  conclusion : Conclusion

/-- What the states of observers can do. -/
structure Behaviour (σ : Type) where
  /-- Whether the observer takes cursors. -/
  takesCursors : σ → Bool
  /-- Whether the observer takes class definitions. -/
  takesClasses : σ → Bool
  /-- The kinds of cursors that the observer asks for. -/
  filter : σ → KindFilter
  onCursor : σ → Cursor → Reaction σ
  /-- The next state, and the failure if there is one. -/
  onClass : σ → ClassDefinition → σ × Option Failure

/-- Who can be subscribed to cursors: the built-in expander of classes, or an observer. -/
inductive Subscriber where
  | expander
  | observer (id : ObserverId)
deriving DecidableEq, Inhabited

/-- What happens in a run, step by step. -/
inductive Event where
  | log (record : LogRecord)
  /-- A cursor is handed to a subscriber. -/
  | cursorCall (subscriber : Subscriber) (cursor : Cursor)
  /-- A class definition is handed to an observer. -/
  | classCall (id : ObserverId) (definition : ClassDefinition)
deriving Inhabited

/-- The log record of an event. -/
def Event.log? : Event → Option LogRecord
  | .log record => some record
  | _ => none

/-- A stretch of a run: the states at its end, what happened, and whether it failed. -/
structure Run (σ : Type) where
  store : Store σ
  events : List Event
  outcome : Except Error Unit

namespace Run

variable {σ : Type}

/-- A run in which nothing happens. -/
def idle (store : Store σ) : Run σ := ⟨store, [], .ok ()⟩

/-- A run that fails at once. -/
def fail (store : Store σ) (error : Error) : Run σ := ⟨store, [], .error error⟩

/-- A run with events in front of it. -/
def after (events : List Event) (run : Run σ) : Run σ :=
  { run with events := events ++ run.events }

/-- One run, and another from where it ends unless it failed. -/
def andThen (run : Run σ) (next : Store σ → Run σ) : Run σ :=
  match run.outcome with
  | .ok () => (next run.store).after run.events
  | .error _ => run

/-- A run as it comes out of the observer that started it: an error is a failure of that observer,
and is recognised inside it. -/
def relayed (run : Run σ) : Run σ :=
  { run with outcome := run.outcome.mapError fun error => (Failure.known error []).toError }

end Run

namespace Expander

/-- The kinds of cursors that an expander asks for. -/
def filter : KindFilter := .only [.classDecl]

/-- What an expander does on a class: a definition is announced with its fields, a declaration
without a body is passed over. -/
def react (cursor : Cursor) : List LogRecord × Conclusion :=
  if cursor.isDefinition then
    let (definition, warnings) := ClassDefinition.expand cursor
    (warnings ++ [⟨.debug, "Expanded class definition",
      [("usr", definition.declaration.usr), ("fields", definition.fields.size.repr),
        ("location", definition.declaration.start.describe)]⟩], .announces definition)
  else
    ([⟨.trace, "Skipping class declaration without a body", [("usr", cursor.usr)]⟩], .done)

end Expander

end DeclScope
