import DeclScope.Cursor.Dump
import DeclScope.Observer.Basic

/-!
# Ready-made observers

* A *collector* keeps the class definitions that it gets.
* A *dumper* writes descriptions of cursors to a sink, with blank lines between them.
* An *expander* does what the built-in one does, once more.
* A *tally* takes class definitions without looking at them, and may count cursors.
* A *probe* follows a script: it counts its calls, fails at a given one, and may announce each
  cursor as a class without fields.
* An *inert* observer takes nothing.
-/

namespace DeclScope

/-- Where text is written, possibly with limited room. -/
structure Sink where
  /-- How many bytes the sink can hold, if it is limited. -/
  room? : Option Nat := none
  text : String := ""
deriving DecidableEq, Inhabited

namespace Sink

/-- Whether there is room for more text. -/
def admits (sink : Sink) (text : String) : Bool :=
  sink.room?.all (sink.text.utf8ByteSize + text.utf8ByteSize ≤ ·)

/-- Write fragments until one does not fit; whether all did. -/
def write (sink : Sink) : List String → Bool × Sink
  | [] => (true, sink)
  | fragment :: rest =>
    if sink.admits fragment then
      write { sink with text := sink.text ++ fragment } rest
    else (false, sink)

end Sink

/-- What a probe does. -/
structure ProbeScript where
  takesCursors : Bool := false
  takesClasses : Bool := false
  filter : KindFilter := .all
  /-- Whether each cursor is announced as a class. -/
  echoes : Bool := false
  /-- The call that fails, counted from one over cursors and classes together. -/
  failsAt? : Option Nat := none
  failure : Failure := .foreign ⟨"", []⟩
deriving Inhabited

/-- The state of a ready-made observer. -/
inductive Instrument where
  | collector (definitions : List ClassDefinition)
  | dumper (filter : KindFilter) (sink : Sink) (dumped : Nat)
  | expander
  | tally (takesCursors : Bool) (seen : Nat)
  | probe (script : ProbeScript) (calls : Nat)
  | inert
deriving Inhabited

namespace Instrument

/-- Whether an instrument takes cursors. -/
def takesCursors : Instrument → Bool
  | dumper .. => true
  | expander => true
  | tally takes _ => takes
  | probe script _ => script.takesCursors
  | _ => false

/-- Whether an instrument takes class definitions. -/
def takesClasses : Instrument → Bool
  | collector _ => true
  | tally .. => true
  | probe script _ => script.takesClasses
  | _ => false

/-- The kinds of cursors that an instrument asks for. -/
def filter : Instrument → KindFilter
  | dumper filter _ _ => filter
  | expander => Expander.filter
  | probe script _ => script.filter
  | _ => .all

/-- What a dumper does when its sink is full. -/
def sinkFull : Failure := .foreign ⟨"sink full", []⟩

/-- What an instrument does on a cursor. -/
def onCursor (instrument : Instrument) (cursor : Cursor) : Reaction Instrument :=
  match instrument with
  | dumper filter sink dumped =>
    let separator := if dumped = 0 then [] else ["\n"]
    match sink.write (separator ++ cursor.dumpFragments) with
    | (true, sink) => ⟨dumper filter sink (dumped + 1), [], .done⟩
    | (false, sink) => ⟨dumper filter sink dumped, [], .failed sinkFull⟩
  | expander =>
    let (logs, conclusion) := Expander.react cursor
    ⟨expander, logs, conclusion⟩
  | tally takes seen => ⟨tally takes (seen + 1), [], .done⟩
  | probe script calls =>
    ⟨probe script (calls + 1), [],
      if script.failsAt? = some (calls + 1) then .failed script.failure
      else if script.echoes then .announces (.ofCursor cursor)
      else .done⟩
  | collector _ | inert => ⟨instrument, [], .done⟩

/-- What an instrument does on a class definition. -/
def onClass (instrument : Instrument) (definition : ClassDefinition) :
    Instrument × Option Failure :=
  match instrument with
  | collector definitions => (collector (definitions ++ [definition]), none)
  | probe script calls =>
    (probe script (calls + 1),
      if script.failsAt? = some (calls + 1) then some script.failure else none)
  | _ => (instrument, none)

/-- What the states of ready-made observers can do. -/
def behaviour : Behaviour Instrument where
  takesCursors := takesCursors
  takesClasses := takesClasses
  filter := filter
  onCursor := onCursor
  onClass := onClass

/-- Whether an instrument is a probe. -/
def isProbe : Instrument → Bool
  | probe .. => true
  | _ => false

end Instrument

end DeclScope
