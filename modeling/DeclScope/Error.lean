/-!
# Failures

An `Error` says why a parse or a registration stopped.  Errors that arise while an observer
handles a call are `Failure`s: they can be wrapped in contexts, each saying what was being
attempted.  On the way out an `Error` inside a failure is recognised and comes back as itself,
without its contexts; any other failure becomes `Error.observer`.
-/

namespace DeclScope

/-- A cause that is not an `Error`, with the contexts put around it, innermost first. -/
structure Report where
  cause : String
  contexts : List String := []
deriving DecidableEq, Inhabited

/-- What a report says first: its outermost context, or the cause if there is none. -/
def Report.message (report : Report) : String :=
  report.contexts.getLast?.getD report.cause

/-- The outermost context first, the cause last. -/
def Report.chain (report : Report) : List String :=
  report.contexts.reverse ++ [report.cause]

/-- Why a parse or a registration stopped. -/
inductive Error where
  /-- No source was given. -/
  | noSource
  /-- More than one source was given. -/
  | multipleSources (count : Nat)
  /-- There is nothing at the given path. -/
  | pathNotFound (path : String)
  /-- A source of a sort that cannot be parsed. -/
  | unsupportedInput (what : String)
  /-- The front end did not deliver a usable tree. -/
  | frontEnd (filename reason : String)
  /-- The observer can observe nothing. -/
  | unrecognizedObserver
  /-- The observer is in use. -/
  | observerBusy
  /-- Reading a source failed. -/
  | io (reason : String)
  /-- An observer failed for a reason of its own. -/
  | observer (report : Report)
deriving DecidableEq, Inhabited

namespace Error

/-- The text of an error. -/
def message : Error → String
  | noSource => "No sources given to parse()"
  | multipleSources count => "Multiple sources given to parse(): " ++ count.repr
  | pathNotFound path => "Passed filename does not exist: " ++ path
  | unsupportedInput what => what ++ " is not yet supported"
  | frontEnd filename reason => "Front end failed to parse " ++ filename ++ ": " ++ reason
  | unrecognizedObserver => "Observer instance is not a recognized type"
  | observerBusy => "Observer is already handling a notification"
  | io reason => "IO error: " ++ reason
  | observer report => report.message

/-- Whether the caller did not give exactly one source that exists. -/
def isInputContract : Error → Bool
  | noSource | multipleSources _ | pathNotFound _ => true
  | _ => false

/-- The error and what lies behind it, as texts from the outside in. -/
def causes : Error → List String
  | io reason => [message (io reason), reason]
  | observer report => report.chain
  | error => [error.message]

end Error

/-- Why an observer stopped. -/
inductive Failure where
  /-- An error of this library, with the contexts put around it, innermost first. -/
  | known (error : Error) (contexts : List String)
  /-- Anything else. -/
  | foreign (report : Report)
deriving DecidableEq, Inhabited

namespace Failure

/-- The error that a failure ends a parse with. -/
def toError : Failure → Error
  | known error _ => error
  | foreign report => .observer report

/-- A failure inside one more context. -/
def within (failure : Failure) (context : String) : Failure :=
  match failure with
  | known error contexts => known error (contexts ++ [context])
  | foreign report => foreign ⟨report.cause, report.contexts ++ [context]⟩

end Failure

end DeclScope
