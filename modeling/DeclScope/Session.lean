import DeclScope.Analyzer
import DeclScope.Directory
import DeclScope.Observer.Instrument

/-!
# Sessions

A session is an analyzer at work: a working directory, ready-made observers with names, and
commands that are carried out one after the other.  A command that fails says so in its reply, and
the next one goes on from the state that is left.

An observer comes into being when its name is first used in a command that says what it is; after
that, the name stands for it whatever later commands say.
-/

namespace DeclScope

/-- A source to be built into a unit, apart from any input. -/
structure UnitRequest where
  frontEnd : FrontEnd
  filename : String
  source : Source
  arguments : List String
  config : Config

/-- What a session can be told to do. -/
inductive Command where
  | create (id : ObserverId) (instrument : Instrument)
  | add (id : ObserverId) (instrument : Instrument)
  | remove (id : ObserverId) (instrument : Instrument)
  /-- Add an observer that is in use. -/
  | addBusy (id : ObserverId) (instrument : Instrument)
  /-- Parse an input while some observers are in use. -/
  | parse (busy : List ObserverId) (frontEnd : FrontEnd) (input : Input)
  | parseUnit (request : UnitRequest)
  /-- Announce a cursor of a unit as a class without fields. -/
  | notify (request : UnitRequest) (path : List Nat)
  | write (path : String) (bytes : List UInt8)
  /-- Look at the state of an observer. -/
  | read (id : ObserverId)
  /-- Empty a collector. -/
  | take (id : ObserverId)
  /-- Look up fields in one of the classes of a collector. -/
  | fields (id : ObserverId) (index : Nat) (names : List String)
  /-- Whether two classes of a collector are the same. -/
  | equal (id : ObserverId) (left right : Nat)
  | describe

/-- What a look at the fields of a class finds. -/
structure FieldReport where
  definition : ClassDefinition
  /-- For each name whether there is such a field, and the field. -/
  queries : List (Bool × Option Declaration)

/-- The answer to a command. -/
inductive Reply where
  | ok
  | failed (error : Error)
  /-- The path to a cursor leads nowhere. -/
  | noSuchChild
  | state (instrument : Instrument)
  | taken (definitions : List ClassDefinition)
  | fields (report? : Option FieldReport)
  | equal (same? : Option Bool)
  | description (analyzer config : String)

/-- What a probe noticed. -/
inductive Note where
  | cursor (id : ObserverId) (cursor : Cursor)
  | definition (id : ObserverId) (definition : ClassDefinition)

/-- What is known after a command. -/
structure StepReport where
  reply : Reply
  cursorObservers : Nat
  classObservers : Nat
  notes : List Note
  logs : List LogRecord

/-- The state of a session. -/
structure Session where
  analyzer : Analyzer := {}
  store : Store Instrument := ⟨.inert, []⟩
  directory : Directory := {}

namespace Session

/-- The session with an observer under a name, made now if there is none yet. -/
def ensure (session : Session) (id : ObserverId) (instrument : Instrument) : Session :=
  match session.store.find? id with
  | some _ => session
  | none => { session with store := session.store.set id instrument }

/-- What a command leaves: the session, what happened, and the reply. -/
abbrev Result := Session × List Event × Reply

/-- The reply that an outcome gives. -/
def replyOf : Except Error Unit → Reply
  | .ok () => .ok
  | .error error => .failed error

/-- The session after a run. -/
def afterRun (session : Session) (run : Run Instrument) : Result :=
  ({ session with store := run.store }, run.events, replyOf run.outcome)

/-- Subscribe an observer. -/
def subscribe (session : Session) (isBusy : Bool) (id : ObserverId) : Result :=
  let (logs, added) :=
    session.analyzer.addObserver Instrument.behaviour isBusy id session.store
  match added with
  | .ok analyzer => ({ session with analyzer }, logs.map .log, .ok)
  | .error error => (session, logs.map .log, .failed error)

/-- Build a unit and go on with it, unless that fails. -/
def withUnit (session : Session) (request : UnitRequest)
    (next : TranslationUnit → Result) : Result :=
  let (logs, unit) := TranslationUnit.parse request.frontEnd request.filename request.source
    request.arguments request.config
  match unit with
  | .ok unit =>
    let (session, events, reply) := next unit
    (session, logs.map .log ++ events, reply)
  | .error error => (session, logs.map .log, .failed error)

/-- The definitions that a collector holds. -/
def collected (session : Session) (id : ObserverId) : List ClassDefinition :=
  match session.store.get id with
  | .collector definitions => definitions
  | _ => []

/-- Look up names among the fields of a class. -/
def reportFields (names : List String) (definition : ClassDefinition) : FieldReport :=
  ⟨definition, names.map fun name =>
    (definition.fields.contains name, definition.fields.get? name)⟩

/-- Carry out a command. -/
def perform (session : Session) : Command → Result
  | .create id instrument => (session.ensure id instrument, [], .ok)
  | .add id instrument => (session.ensure id instrument).subscribe false id
  | .addBusy id instrument => (session.ensure id instrument).subscribe true id
  | .remove id instrument =>
    let session := session.ensure id instrument
    ({ session with analyzer := session.analyzer.removeObserver id }, [], .ok)
  | .parse busy frontEnd input =>
    session.afterRun <| session.analyzer.parse Instrument.behaviour frontEnd
      session.directory.status busy input session.store
  | .parseUnit request =>
    session.withUnit request fun unit =>
      session.afterRun (session.analyzer.parseUnit Instrument.behaviour [] unit session.store)
  | .notify request path =>
    session.withUnit request fun unit =>
      match unit.cursor.descend? path with
      | none => (session, [], .noSuchChild)
      | some cursor =>
        session.afterRun
          (session.analyzer.notify Instrument.behaviour (.ofCursor cursor) session.store)
  | .write path bytes =>
    ({ session with directory := session.directory.put path (.file bytes) }, [], .ok)
  | .read id => (session, [], .state (session.store.get id))
  | .take id =>
    ({ session with store := session.store.set id (.collector []) }, [],
      .taken (session.collected id))
  | .fields id index names =>
    (session, [], .fields ((session.collected id)[index]?.map (reportFields names)))
  | .equal id left right =>
    let definitions := session.collected id
    (session, [], .equal do return (← definitions[left]?).isSameEntity (← definitions[right]?))
  | .describe =>
    (session, [],
      .description session.analyzer.describe session.analyzer.config.toJson.compact)

/-- What an event is to the probes. -/
def note? (store : Store Instrument) : Event → Option Note
  | .cursorCall (.observer id) cursor =>
    if (store.get id).isProbe then some (.cursor id cursor) else none
  | .classCall id definition =>
    if (store.get id).isProbe then some (.definition id definition) else none
  | _ => none

/-- Carry out a command and report on it. -/
def step (session : Session) (command : Command) : Session × StepReport :=
  let (session, events, reply) := session.perform command
  (session, ⟨reply, session.analyzer.registry.cursorList.length,
    session.analyzer.registry.classList.length, events.filterMap (note? session.store),
    events.filterMap Event.log?⟩)

/-- Carry out commands one after the other. -/
def run (session : Session) : List Command → List StepReport
  | [] => []
  | command :: rest =>
    let (session, report) := session.step command
    report :: session.run rest

end Session

end DeclScope
