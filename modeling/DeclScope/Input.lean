import DeclScope.Config
import DeclScope.Error
import DeclScope.Log
import DeclScope.Text.Source
import DeclScope.Text.Utf8

/-!
# Where a source comes from

A source is given as a path, as a stream, or as text; exactly one of the three is wanted, and text
is not accepted yet.  `load` turns an input into a file name and a decoded source, and decides
between failures in a fixed order: the number of sources, their sort, the path, and then the
reading.

The files that can be reached by a path are a parameter: a function that says what is there.
-/

namespace DeclScope

/-- Bytes that are read once; the reading may fail after the last of them. -/
structure Stream where
  bytes : List UInt8
  failure? : Option String := none
deriving DecidableEq, Inhabited

/-- Bytes are a stream that never fails. -/
instance : Coe (List UInt8) Stream := ⟨fun bytes => { bytes }⟩

/-- What is to be parsed. -/
structure Input where
  path? : Option String := none
  stream? : Option Stream := none
  text? : Option String := none
  /-- The arguments for the front end. -/
  arguments : List String := []
deriving DecidableEq, Inhabited

/-- What there is at a path. -/
inductive PathStatus where
  | missing
  /-- Something that cannot be read as a file. -/
  | unreadable (reason : String)
  | file (bytes : List UInt8)
deriving DecidableEq, Inhabited

/-- What the system says when a directory is read as a file. -/
def PathStatus.directory : PathStatus := .unreadable "Is a directory (os error 21)"

/-- What there is at each path. -/
abbrev Files := String → PathStatus

namespace Input

/-- The number of sources that are given. -/
def sourceCount (input : Input) : Nat :=
  [input.path?.isSome, input.stream?.isSome, input.text?.isSome].count true

/-- The source of some bytes, with a warning if they are not valid UTF-8. -/
def decode (filename : String) (bytes : List UInt8) : List LogRecord × Source :=
  let warnings := match Utf8.firstGap? (Utf8.pieces bytes) with
    | some offset =>
      [⟨.warn, "Source is not valid UTF-8, replacing invalid bytes",
        [("filename", filename), ("offset", offset.repr)]⟩]
    | none => []
  (warnings, ⟨Utf8.decode bytes⟩)

/-- The name and the bytes of the source of an input that has exactly one.  What is neither a path
alone nor a stream alone counts as no source. -/
def read (files : Files) (config : Config) (input : Input) :
    Except Error (String × List UInt8) :=
  if input.text?.isSome then .error (.unsupportedInput "Parsing from strings")
  else match input.path?, input.stream? with
    | some path, none =>
      match files path with
      | .missing => .error (.pathNotFound path)
      | .unreadable reason => .error (.io reason)
      | .file bytes => .ok (path, bytes)
    | none, some stream =>
      match stream.failure? with
      | some reason => .error (.io reason)
      | none => .ok (config.streamFilename, stream.bytes)
    | _, _ => .error .noSource

/-- The name and the decoded text of the source of an input. -/
def load (files : Files) (config : Config) (input : Input) :
    List LogRecord × Except Error (String × Source) :=
  match input.sourceCount with
  | 0 => ([], .error .noSource)
  | 1 =>
    match input.read files config with
    | .error error => ([], .error error)
    | .ok (filename, bytes) =>
      let (warnings, source) := decode filename bytes
      (warnings, .ok (filename, source))
  | count => ([], .error (.multipleSources count))

/-- The input written out as a record; of a stream and of text only the presence and size. -/
def describe (input : Input) : String :=
  Text.record "ParseInput"
    [("filename", Text.optional (input.path?.map Text.quoted)),
      ("reader", Text.optional (input.stream?.map fun _ => Text.quoted "<stream>")),
      ("content", Text.optional (input.text?.map (·.utf8ByteSize.repr))),
      ("args", Text.quotedList input.arguments)]

end Input

end DeclScope
