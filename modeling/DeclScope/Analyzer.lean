import DeclScope.Input
import DeclScope.Observer.Dispatch

/-!
# The analyzer

An analyzer has settings and subscribers.  Parsing an input loads its source, has the front end
build the tree, and dispatches the cursors of the top-level walk.  Whatever fails before the
dispatch leaves every observer alone.
-/

namespace DeclScope

/-- Settings and subscribers. -/
structure Analyzer where
  config : Config := .standard
  registry : Registry := .initial
deriving DecidableEq, Inhabited

namespace Analyzer

variable {σ : Type}

/-- Walk a unit and hand its cursors to the subscribers. -/
def parseUnit (analyzer : Analyzer) (behaviour : Behaviour σ) (busy : List ObserverId)
    (unit : TranslationUnit) (store : Store σ) : Run σ :=
  if unit.cursor.kind = .translationUnit then
    let cursors := unit.cursor.toplevelWalk.map (·.1)
    let started : LogRecord := ⟨.info, "Parsing translation unit",
      [("filename", unit.filename), ("language", unit.language.name)]⟩
    let finished : LogRecord := ⟨.info, "Finished translation unit",
      [("filename", unit.filename), ("cursors", cursors.length.repr)]⟩
    ((behaviour.dispatchAll busy analyzer.registry cursors store).andThen
      fun store => (Run.idle store).after [.log finished]).after [.log started]
  else
    .fail store (.frontEnd unit.filename ("root node is " ++ unit.root.kind.text))

/-- Build the unit of a source, walk it, and hand its cursors to the subscribers. -/
def parseSource (analyzer : Analyzer) (behaviour : Behaviour σ) (frontEnd : FrontEnd)
    (busy : List ObserverId) (filename : String) (source : Source) (arguments : List String)
    (store : Store σ) : Run σ :=
  let (logs, unit) := TranslationUnit.parse frontEnd filename source arguments analyzer.config
  let run := match unit with
    | .ok unit => analyzer.parseUnit behaviour busy unit store
    | .error error => .fail store error
  run.after (logs.map .log)

/-- Parse an input. -/
def parse (analyzer : Analyzer) (behaviour : Behaviour σ) (frontEnd : FrontEnd) (files : Files)
    (busy : List ObserverId) (input : Input) (store : Store σ) : Run σ :=
  let (logs, source) := input.load files analyzer.config
  let run := match source with
    | .ok (filename, source) =>
      analyzer.parseSource behaviour frontEnd busy filename source input.arguments store
    | .error error => .fail store error
  run.after (logs.map .log)

/-- Hand a class definition to all who take definitions. -/
def notify (analyzer : Analyzer) (behaviour : Behaviour σ) (definition : ClassDefinition)
    (store : Store σ) : Run σ :=
  behaviour.notify [] definition analyzer.registry.classList store

/-- Subscribe an observer to what it takes. -/
def addObserver (analyzer : Analyzer) (behaviour : Behaviour σ) (isBusy : Bool)
    (id : ObserverId) (store : Store σ) : List LogRecord × Except Error Analyzer :=
  let takesCursors := behaviour.takesCursors (store.get id)
  let takesClasses := behaviour.takesClasses (store.get id)
  match analyzer.registry.add id isBusy takesCursors takesClasses with
  | .ok registry =>
    ([Registry.additionRecord takesCursors takesClasses], .ok { analyzer with registry })
  | .error error => ([], .error error)

/-- Unsubscribe an observer. -/
def removeObserver (analyzer : Analyzer) (id : ObserverId) : Analyzer :=
  { analyzer with registry := analyzer.registry.remove id }

/-- The analyzer written out as a record. -/
def describe (analyzer : Analyzer) : String :=
  Text.record "Parser"
    [("config", analyzer.config.describe),
      ("cursor_observers", analyzer.registry.cursorList.length.repr),
      ("definition_observers", analyzer.registry.classList.length.repr)]

end Analyzer

end DeclScope
